import RackElevation.Proofs.Drawing.Canvas
import RackElevation.Proofs.Service.Request
import RackElevation.Proofs.Service.Response
import RackElevation.Proofs.Settings
import RackElevation.Proofs.Source

/-
  What a request for a drawing is answered

  The service judges a source in four steps, and refuses it at the first of them
  that finds fault: a source that is blank, one that is no rack set, and one with
  a rack above the limit. What is left is drawn exactly as a conversion draws it.
  Each refusal can be told from the others, so the answer says which step it was.

  What is proved:
    1. `answer_judged` — the answer to a request for a drawing, and why it is
       that answer.
    2. `answer_judged_board` (anti-vacuity) — a source with a note reference, and
       a dialect that there is not.
-/

namespace RackElevation

open Text Outcome

namespace Service

/-- A request posts to the path of a drawing in a dialect: the one of the settings, or one that the
path names. -/
inductive Asks (s : Settings) (r : Request) : String → Prop
  | byDefault : r.PostsTo ["render".toList] → Asks s r s.dialect
  | byName {name : String} :
    r.PostsTo ["render".toList, name.toList] → name ∈ Dialect.names → Asks s r name

/-- Nothing but faults of the source comes up on the way to a drawing. -/
structure Undisturbed (s : Settings) (resolver : Option Resolver) (dialect source : String) :
    Prop where
  reading : ∀ e, Source.parse dialect source = .error e → ∃ d, e.diagnostic? = some d
  drawing : ∀ set, Source.parse dialect source = .ok set →
    (∀ rack ∈ set.racks, rack.height ≤ s.maxRackHeight) → Succeeds (Conversion.render resolver set)

/-- A response says what becomes of a source, each of its forms for one reason alone: that of a
fault is the refusal with a sentence and a line that any error of a source can have. -/
structure Judged (s : Settings) (resolver : Option Resolver) (dialect source : String)
    (response : Response) : Prop where
  empty : response = refusal 400 [("error", .text "empty source")] ↔ Blanks source.toList
  malformed : ¬Blanks source.toList → ∀ e : Source.Error, ∀ d, e.diagnostic? = some d →
    (response = refusal 400 [("error", .text d.message), ("line", Json.ofInt? d.line)] ↔
      ∃ e, Source.parse dialect source = .error e ∧ e.diagnostic? = some d)
  tooHigh : ¬Blanks source.toList → ∀ set, Source.parse dialect source = .ok set →
    ((∃ rack ∈ set.racks, (∀ other ∈ set.racks, other.height ≤ rack.height) ∧
      response = refusal 400
        [("error", .text (tooHighText rack.height s.maxRackHeight)), ("line", .null)]) ↔
      ∃ rack ∈ set.racks, s.maxRackHeight < rack.height)
  drawn : ¬Blanks source.toList → ∀ set, Source.parse dialect source = .ok set →
    (∀ rack ∈ set.racks, rack.height ≤ s.maxRackHeight) →
    ∃ svg, Conversion.convert resolver dialect source = .ok svg ∧
      response = ⟨200, "image/svg+xml", svg⟩

section Responses

variable {s : Settings} {resolver : Option Resolver} {dialect source : String}

theorem judged_empty (hblank : Blanks source.toList) :
    Judged s resolver dialect source (refusal 400 [("error", .text "empty source")]) where
  empty := iff_of_true rfl hblank
  malformed h := absurd hblank h
  tooHigh h := absurd hblank h
  drawn h := absurd hblank h

theorem judged_malformed (hsource : ¬Blanks source.toList) {e : Source.Error} {d : Diagnostic}
    (hparse : Source.parse dialect source = .error e) (hd : e.diagnostic? = some d) :
    Judged s resolver dialect source
      (refusal 400 [("error", .text d.message), ("line", Json.ofInt? d.line)]) where
  empty := iff_of_false refusal_ne_located.symm hsource
  malformed _ e' d' hd' := by
    constructor
    · intro h
      obtain ⟨hmessage, hline⟩ := refusal_inj h
      refine ⟨e, hparse, ?_⟩
      rw [hd]
      cases d
      cases d'
      cases hmessage
      cases hline
      rfl
    · intro h
      obtain ⟨e'', hparse', hd''⟩ := h
      rw [hparse] at hparse'
      cases hparse'
      rw [hd] at hd''
      cases hd''
      rfl
  tooHigh _ set hset := by
    rw [hparse] at hset
    cases hset
  drawn _ set hset := by
    rw [hparse] at hset
    cases hset

theorem judged_tooHigh (hsource : ¬Blanks source.toList) {set : RackSet}
    (hparse : Source.parse dialect source = .ok set)
    (hhigh : ∃ rack ∈ set.racks, s.maxRackHeight < rack.height) :
    Judged s resolver dialect source (refusal 400
      [("error", .text (tooHighText set.tallest s.maxRackHeight)), ("line", .null)]) where
  empty := iff_of_false refusal_ne_located.symm hsource
  malformed _ e d hd := by
    constructor
    · intro h
      obtain ⟨hmessage, hline⟩ := refusal_inj (n := d.line) (m := none) h
      exact absurd hmessage.symm (diagnostic_ne_tooHigh hd hline.symm _ _)
    · intro h
      obtain ⟨e', hparse', _⟩ := h
      rw [hparse] at hparse'
      cases hparse'
  tooHigh _ set' hset := by
    rw [hparse] at hset
    cases hset
    refine iff_of_true ?_ hhigh
    obtain ⟨rack, hrack, _⟩ := hhigh
    obtain ⟨tallest, htallest, hheight⟩ := tallest_mem (List.ne_nil_of_mem hrack)
    refine ⟨tallest, htallest, ?_, by rw [hheight]⟩
    intro other hother
    rw [hheight]
    exact height_le_tallest hother
  drawn _ set' hset hlow := by
    rw [hparse] at hset
    cases hset
    obtain ⟨rack, hrack, habove⟩ := hhigh
    exact absurd (hlow rack hrack) (by omega)

theorem judged_drawing (hsource : ¬Blanks source.toList) {set : RackSet} {svg : String}
    (hparse : Source.parse dialect source = .ok set)
    (hlow : ∀ rack ∈ set.racks, rack.height ≤ s.maxRackHeight)
    (hrender : Conversion.render resolver set = .ok svg) :
    Judged s resolver dialect source ⟨200, "image/svg+xml", svg⟩ where
  empty := by
    refine iff_of_false ?_ hsource
    intro h
    cases congrArg Response.status h
  malformed _ e d hd := by
    refine iff_of_false ?_ ?_
    · intro h
      cases congrArg Response.status h
    · intro h
      obtain ⟨e', hparse', _⟩ := h
      rw [hparse] at hparse'
      cases hparse'
  tooHigh _ set' hset := by
    rw [hparse] at hset
    cases hset
    refine iff_of_false ?_ ?_
    · intro h
      obtain ⟨_, _, _, h⟩ := h
      cases congrArg Response.status h
    · intro h
      obtain ⟨rack, hrack, habove⟩ := h
      exact absurd (hlow rack hrack) (by omega)
  drawn _ set' _ _ := by
    refine ⟨svg, ?_, rfl⟩
    rw [Conversion.convert, hparse]
    exact hrender

end Responses

section Judging

variable {s : Settings} {dialect source : String}

theorem judgeSet_tall {set : RackSet} (h : ∃ rack ∈ set.racks, s.maxRackHeight < rack.height) :
    judgeSet s dialect set = .ok (.tooHigh dialect set.tallest s.maxRackHeight) := by
  apply if_pos
  simpa only [List.any_eq_true, decide_eq_true_eq] using h

theorem judgeSet_low {set : RackSet} (h : ∀ rack ∈ set.racks, rack.height ≤ s.maxRackHeight) :
    judgeSet s dialect set = .drawing <$> Conversion.render (resolver? s) set := by
  apply if_neg
  simpa only [List.any_eq_true, decide_eq_true_eq, not_exists, not_and, Int.not_lt] using h

/-- What judging a source comes to is what its answer says. -/
theorem judge_judged (hdialect : dialect ∈ Dialect.names)
    (hcalm : ¬Blanks source.toList → Undisturbed s (resolver? s) dialect source) :
    ∃ v, judge s dialect source = .ok v ∧ Judged s (resolver? s) dialect source v.response := by
  obtain ⟨d, hd⟩ := Source.exists_dialect hdialect
  have hparse : Source.parse dialect source = Source.read d source := Source.parse_of_ofName? hd
  unfold judge judgeSource
  rw [hd]
  by_cases hblank : Blanks source.toList
  · exact ⟨.empty, if_pos (isBlankText_iff.2 hblank), judged_empty hblank⟩
  simp only [if_neg (mt isBlankText_iff.1 hblank)]
  cases hread : Source.read d source with
  | error e =>
    rw [hread] at hparse
    obtain ⟨g, hg⟩ := (hcalm hblank).reading e hparse
    refine ⟨.malformed dialect g, ?_, judged_malformed hblank hparse hg⟩
    simp only [hg]
  | ok set =>
    rw [hread] at hparse
    by_cases hhigh : ∃ rack ∈ set.racks, s.maxRackHeight < rack.height
    · exact ⟨_, judgeSet_tall hhigh, judged_tooHigh hblank hparse hhigh⟩
    · have hlow : ∀ rack ∈ set.racks, rack.height ≤ s.maxRackHeight :=
        fun rack hrack => Int.not_lt.1 fun h => hhigh ⟨rack, hrack, h⟩
      obtain ⟨svg, hsvg⟩ := (hcalm hblank).drawing set hparse hlow
      refine ⟨.drawing svg, ?_, judged_drawing hblank hparse hlow hsvg⟩
      simp only [judgeSet_low hlow, hsvg]
      rfl

/-- What is drawn is a set that was read, with no rack above the limit. -/
theorem low_of_judge {v : Verdict} (h : judge s dialect source = .ok v)
    (hdrawn : v.response.status = 200) : ∃ set, Source.parse dialect source = .ok set ∧
      ∀ rack ∈ set.racks, rack.height ≤ s.maxRackHeight := by
  -- every other verdict is told by a refusal
  obtain ⟨svg, rfl⟩ : ∃ svg, v = .drawing svg := by
    cases v with
    | drawing svg => exact ⟨svg, rfl⟩
    | _ => cases hdrawn
  unfold judge at h
  split at h
  · cases h
  next d hd =>
  unfold judgeSource at h
  split at h
  · cases h
  split at h
  · next set hread =>
    exact ⟨set, (Source.parse_of_ofName? hd).trans hread, judge_drawing h⟩
  · split at h <;> cases h

theorem response_reply (s : Settings) (v : Verdict) : (reply s v).response = v.response := by
  unfold reply
  split <;> rfl

theorem resolver?_eq {base : Option String} (hbase : FirstGiven [s.linkBase] base) :
    resolver? s = Link.resolver? base := by
  rw [resolver?, firstGiven_one.1 hbase]
  rfl

theorem render_tooLong {r : Request} (hdialect : dialect ∈ Dialect.names)
    (h : r.isTooLong s.maxContentLength = true) : render s dialect r = .ok ⟨.tooLarge, ""⟩ := by
  have hknown := (Dialect.ofName?_isSome dialect).2 hdialect
  exact if_pos (by rw [hknown, h]; rfl)

theorem render_short {r : Request} (h : ¬r.isTooLong s.maxContentLength = true) :
    render s dialect r = (judge s dialect r.source).map (reply s) := by
  refine if_neg ?_
  rw [Bool.and_eq_true]
  exact fun hboth => h hboth.2

/-- A dialect that there is not is refused before the body is looked at. -/
theorem render_unknown {r : Request} (h : dialect ∉ Dialect.names) : render s dialect r =
    .ok ⟨refusal 404 [("error", .text ("unsupported dialect: " ++ dialect))], ""⟩ := by
  have hknown : (Dialect.ofName? dialect).isSome = false := by
    rw [Bool.eq_false_iff, Ne, Dialect.ofName?_isSome]
    exact h
  rw [render, hknown, Bool.false_and, if_neg Bool.false_ne_true, judge_unknown s r.source h]
  rfl

end Judging

/-- A request that asks for a drawing is answered by it. -/
theorem answer_of_asks {s : Settings} {r : Request} {dialect : String} (h : Asks s r dialect) :
    answer s r = (render s dialect r).mapError Failure.conversion := by
  cases h with
  | byDefault hpost => exact answer_render hpost
  | byName hpost hname =>
    apply answer_renderAs hpost
    rintro rfl
    exact absurd hname (by decide)

theorem mem_names_of_asks {s : Settings} {r : Request} {dialect : String} (hs : s.Valid)
    (h : Asks s r dialect) : dialect ∈ Dialect.names := by
  cases h with
  | byDefault => exact hs.dialect
  | byName _ hname => exact hname

theorem content_ne_tooLarge {s : Settings} {r : Request}
    (h : ¬r.isTooLong s.maxContentLength = true) : r.content ≠ .tooLarge := by
  intro hcontent
  apply h
  rw [Request.isTooLong, hcontent, decide_eq_true rfl, Bool.or_true]

/-! ## The answer -/

theorem answer_judged {s : Settings} (hs : s.Valid) {base : Option String}
    (hbase : FirstGiven [s.linkBase] base) (r : Request) :
    (∀ dialect source, Asks s r dialect → r.Carries source →
      (∀ reply, answer s r = .ok reply → reply.response.status ≠ 413) →
      Undisturbed s (Link.resolver? base) dialect source → ∃ reply, answer s r = .ok reply ∧
        Judged s (Link.resolver? base) dialect source reply.response) ∧
    (∀ dialect source reply, Asks s r dialect → r.Carries source → answer s r = .ok reply →
      reply.response.status = 200 → ∃ set, Source.parse dialect source = .ok set ∧
        ∀ rack ∈ set.racks, rack.height ≤ s.maxRackHeight) ∧
    ∀ name : String, name ≠ "" → name ∉ Dialect.names → r.PostsTo ["render".toList, name.toList] →
      answer s r =
        .ok ⟨refusal 404 [("error", .text ("unsupported dialect: " ++ name))], ""⟩ := by
  rw [← resolver?_eq hbase]
  refine ⟨?_, ?_, ?_⟩
  · intro dialect source hasks hcarries hlength hcalm
    have hdialect := mem_names_of_asks hs hasks
    have hanswer := answer_of_asks hasks
    have hshort : ¬r.isTooLong s.maxContentLength = true := by
      intro hlong
      rw [render_tooLong hdialect hlong] at hanswer
      exact hlength _ hanswer rfl
    rw [← (Request.carries_iff (content_ne_tooLarge hshort)).1 hcarries] at hcalm ⊢
    obtain ⟨v, hjudge, hjudged⟩ := judge_judged hdialect fun _ => hcalm
    refine ⟨reply s v, ?_, ?_⟩
    · rw [hanswer, render_short hshort, hjudge]
      rfl
    · rw [response_reply]
      exact hjudged
  · intro dialect source reply hasks hcarries hreply hdrawn
    rw [answer_of_asks hasks, mapError_eq_ok] at hreply
    have hshort : ¬r.isTooLong s.maxContentLength = true := by
      intro hlong
      rw [render_tooLong (mem_names_of_asks hs hasks) hlong] at hreply
      cases hreply
      cases hdrawn
    rw [← (Request.carries_iff (content_ne_tooLarge hshort)).1 hcarries]
    rw [render_short hshort] at hreply
    obtain ⟨v, hjudge, rfl⟩ := map_eq_ok.1 hreply
    rw [response_reply] at hdrawn
    exact low_of_judge hjudge hdrawn
  · intro name hname hunknown hpost
    rw [answer_renderAs hpost hname, render_unknown hunknown]
    rfl

/-! ## A drawing -/

/-- A request that posts a text to a path. -/
def posted (target body : String) : Request :=
  { method := "POST", target := target.toList, body := Utf8.encode body.toList }

/-- A rack with one device, which refers to a note. -/
def board : String := "caption: a\nheight: 2\nitems:\n- server: [[Web 1]]"

/-- The rack set that this is. -/
def boardSet : RackSet :=
  { racks := [{ name := "a", height := 2,
                devices := [{ kind := "server", name := "[[Web 1]]" }] }] }

theorem parse_board : Source.parse "rack-text" board = .ok boardSet := by decide +kernel

theorem answer_judged_board :
    (∃ reply, answer { linkBase := some "notes:" } (posted "/render" board) = .ok reply ∧
      Judged { linkBase := some "notes:" } (Link.resolver? (some "notes:")) "rack-text" board
        reply.response) ∧
    answer { linkBase := some "notes:" } (posted "/render/yaml" board) =
      .ok ⟨refusal 404 [("error", .text "unsupported dialect: yaml")], ""⟩ := by
  have hs : SettingsOver.Valid { linkBase := some "notes:" } := ⟨by decide, by decide, by decide⟩
  have hbase : FirstGiven [some "notes:"] (some "notes:") := .here (by decide)
  constructor
  · have hasks : Asks { linkBase := some "notes:" } (posted "/render" board) "rack-text" := by
      apply Asks.byDefault
      exact ⟨by decide +kernel, { path := "/render".toList }, by decide +kernel, by decide +kernel⟩
    have hcarries : (posted "/render" board).Carries board :=
      (Request.carries_iff (by decide +kernel)).2 (by decide +kernel)
    have hstatus : (answer { linkBase := some "notes:" } (posted "/render" board)).map
        (fun reply => reply.response.status) = .ok 200 := by decide +kernel
    apply (answer_judged hs hbase (posted "/render" board)).1 "rack-text" board hasks hcarries
    · intro reply hreply
      rw [hreply] at hstatus
      have hdrawn : reply.response.status = 200 := Except.ok.inj hstatus
      omega
    · constructor
      · intro e he
        rw [parse_board] at he
        cases he
      · intro set hset _
        rw [parse_board] at hset
        cases hset
        exact succeeds_of_isOk (by decide +kernel)
  · apply (answer_judged hs hbase (posted "/render/yaml" board)).2.2 "yaml" (by decide) (by decide)
    refine ⟨by decide +kernel, { path := "/render/yaml".toList }, ?_, ?_⟩
    · decide +kernel
    · decide +kernel

end Service

end RackElevation
