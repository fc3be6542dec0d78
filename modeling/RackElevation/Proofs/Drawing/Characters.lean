import RackElevation.Proofs.Drawing.Document
import RackElevation.Proofs.Markup.Character

/-
  Characters of a drawing

  What is written of its own accord is made of ordinary characters: names of
  elements and attributes, numbers, paths, colours. Every other character of a
  drawing comes from a text of the rack set that is shown: the name of a rack,
  and the kind, the colour, the address and the name of a device. So a property
  of ordinary characters holds throughout a drawing exactly if it holds of what
  is kept of these texts.

  What is proved:
    1. `forall_document_iff` — a property of the tree of a drawing is one of the
       texts that are shown.
    2. `forall_draw_iff` — so is a property of the drawing as it is written.
    3. `legal_draw_iff` — a drawing holds nothing that a document may not hold,
       exactly if U+FFFE and U+FFFF are in no text that is shown.
    4. `marred_not_legal` (anti-vacuity) — a rack set whose drawing does.
-/

namespace RackElevation

open Markup Entity

/-- The texts of a device that are shown; of an address, what is left of it. -/
def Device.shown (base : Option String) (d : Device) : List (List Char) :=
  [d.kind.toList, (Drawing.deviceColor d).toList, Plan.target base d, d.name.toList]

/-- The texts of a rack that are shown. -/
def Rack.shown (base : Option String) (r : Rack) : List (List Char) :=
  r.name.toList :: r.devices.flatMap (Device.shown base)

/-- The texts of a rack set that are shown. -/
def RackSet.shown (s : RackSet) : List (List Char) := s.racks.flatMap (Rack.shown s.base)

/-! ## Ordinary characters -/

/-- A text of ordinary characters. -/
abbrev Simple (s : String) : Prop := AllOf Ordinary s.toList

theorem ordinary_of_isNumberChar {c : Char} (h : isNumberChar c = true) : Ordinary c := by
  simp only [isNumberChar, Bool.or_eq_true, beq_iff_eq] at h
  rcases h with (((h | rfl) | rfl) | rfl) | rfl
  · have hdigit := Char.isDigit_iff_toNat.1 h
    have hlow : '0'.toNat = 48 := rfl
    have hhigh : '9'.toNat = 57 := rfl
    right
    omega
  all_goals decide

theorem simple_integer (n : Int) : Simple (toString n) :=
  fun _ hc => ordinary_of_isNumberChar (mem_toString_int hc)

theorem simple_fraction (x : Option Binary64) : Simple (Plan.fraction x) := by
  cases x with
  | none => exact allOf_nil Ordinary
  | some x => exact fun c hc => ordinary_of_isNumberChar (isNumberChar_plainText x c hc)

theorem simple_briefText (x : Real64) : Simple x.briefText := by
  cases x with
  | finite x => exact fun c hc => ordinary_of_isNumberChar (isNumberChar_briefText x c hc)
  | infinite negative => cases negative <;> decide
  | undefined => decide

theorem simple_append {s t : String} (hs : Simple s) (ht : Simple t) : Simple (s ++ t) := by
  rw [Simple, String.toList_append, allOf_append]
  exact ⟨hs, ht⟩

/-- An attribute of ordinary characters. -/
def SimplePair (a : Pair) : Prop := Simple a.1 ∧ AllOf Ordinary a.2

theorem simplePair_fixed {name value : String} (hn : Simple name) (hv : Simple value) :
    SimplePair (Plan.fixed name value) := ⟨hn, hv⟩

theorem simplePair_centred {x y anchor : String} (hx : Simple x) (hy : Simple y)
    (hanchor : Simple anchor) : ∀ a ∈ Plan.centred x y anchor, SimplePair a := by
  simp only [Plan.centred, List.forall_mem_cons]
  refine ⟨simplePair_fixed (by decide) hx, simplePair_fixed (by decide) hy,
    simplePair_fixed (by decide) hanchor, simplePair_fixed (by decide) (by decide),
    simplePair_fixed (by decide) (by decide), by simp⟩

theorem simplePair_sized {size : String} (hsize : Simple size) {ps : List Pair}
    (h : ∀ a ∈ ps, SimplePair a) : ∀ a ∈ ps ++ [Plan.fixed "font-size" size], SimplePair a :=
  List.forall_mem_append.2 ⟨h, List.forall_mem_singleton.2 (simplePair_fixed (by decide) hsize)⟩

/-! ## Properties of trees -/

theorem forall_charactersOf_iff {p : Char → Prop} {ts : List Tree} :
    AllOf p (charactersOf ts) ↔ ∀ t ∈ ts, AllOf p (characters t) := by
  induction ts with
  | nil => exact iff_of_true (allOf_nil p) (by simp)
  | cons t ts ih => rw [charactersOf, allOf_append, ih, List.forall_mem_cons]

theorem forall_text_iff {p : Char → Prop} {s : List Char} : AllOf p (charactersOf (textTree s)) ↔ AllOf p s := by
  unfold textTree
  cases s with
  | nil => exact iff_of_true (allOf_nil p) (allOf_nil p)
  | cons c s =>
    rw [if_neg (by simp), charactersOf, characters, charactersOf, List.append_nil]

section Properties

variable {p : Char → Prop} (hp : ∀ c, Ordinary c → p c)

include hp

theorem forall_pairs {ps : List Pair} (h : ∀ a ∈ ps, SimplePair a) :
    AllOf p (ps.flatMap fun a => a.1.toList ++ a.2) := by
  refine allOf_ordinary hp (List.forall_mem_flatMap.2 fun a ha => ?_)
  exact allOf_append.2 (h a ha)

/-- The names and values of an element do not matter if they are ordinary. -/
theorem forall_element_iff {name : String} {ps : List Pair} {ts : List Tree} (hname : Simple name)
    (hps : ∀ a ∈ ps, SimplePair a) :
    AllOf p (characters (.element name ps ts)) ↔ AllOf p (charactersOf ts) := by
  have hname : AllOf p name.toList := allOf_ordinary hp hname
  have hps := forall_pairs hp hps
  rw [characters, allOf_append, allOf_append]
  simp only [hname, hps, true_and]

theorem forall_moved_iff {x y : String} {ts : List Tree} (hx : Simple x) (hy : Simple y) :
    AllOf p (characters (Plan.moved x y ts)) ↔ AllOf p (charactersOf ts) := by
  have hplace : Simple ("translate(" ++ x ++ ", " ++ y ++ ")") :=
    simple_append (simple_append (simple_append (simple_append (by decide) hx) (by decide)) hy)
      (by decide)
  rw [Plan.moved, forall_element_iff hp (by decide), forall_onLines_iff hp]
  exact List.forall_mem_singleton.2 (simplePair_fixed (by decide) hplace)

theorem forall_label_iff {ps : List Pair} (hps : ∀ a ∈ ps, SimplePair a) (s : String) :
    AllOf p (characters (Plan.label ps s)) ↔ AllOf p (kept s.toList) := by
  rw [Plan.label, forall_element_iff hp (by decide) hps, forall_text_iff]

/-! ## The scale -/

theorem forall_tick (y : Int) : AllOf p (characters (Plan.tick y)) := by
  have hy : Simple (toString y) := simple_integer y
  rw [Plan.tick, forall_element_iff hp (by decide)]
  · exact allOf_nil p
  · simp only [List.forall_mem_cons]
    refine ⟨simplePair_fixed (by decide) (by decide), simplePair_fixed (by decide) hy,
      simplePair_fixed (by decide) (by decide), simplePair_fixed (by decide) hy,
      simplePair_fixed (by decide) (by decide), simplePair_fixed (by decide) (by decide), by simp⟩

theorem forall_unitNumber (height unit : Int) :
    AllOf p (characters (Plan.unitNumber height unit)) := by
  have hps : ∀ a ∈ Plan.centred "44" (Plan.fraction (Drawing.unitMiddle (Plan.unitTop height unit)))
      "end" ++ [Plan.fixed "font-size" "12"], SimplePair a :=
    simplePair_sized (by decide) (simplePair_centred (by decide) (simple_fraction _) (by decide))
  rw [Plan.unitNumber, forall_element_iff hp (by decide) hps, charactersOf, characters, charactersOf,
    List.append_nil]
  exact allOf_ordinary hp (simple_integer unit)

theorem forall_scale (height : Int) : AllOf p (charactersOf (Plan.scale height)) := by
  rw [forall_charactersOf_iff, Plan.scale]
  intro t ht
  rcases List.mem_append.1 ht with ht | ht
  · obtain ⟨u, _, ht⟩ := List.mem_flatMap.1 ht
    simp only [List.mem_cons, List.not_mem_nil, or_false] at ht
    rcases ht with rfl | rfl
    · exact forall_unitNumber hp height u
    · exact forall_tick hp _
  · rw [List.mem_singleton.1 ht]
    exact forall_tick hp _

/-! ## Devices -/

theorem forall_shape {s : Svg.Shape} (h : ∀ t ∈ s.texts, Simple t) :
    AllOf p (characters (Plan.shape s)) := by
  have hname : Simple s.tag.name := by
    cases s with
    | path => show Simple "path"; decide
    | rect => show Simple "rect"; decide
    | circle => show Simple "circle"; decide
  have hnames : ∀ n ∈ shapeNames, Simple n := by decide
  rw [Plan.shape, forall_element_iff hp hname]
  · exact allOf_nil p
  · rw [List.forall_mem_map]
    intro a ha
    obtain ⟨name, hmem, value, rfl, hvalue⟩ := mem_shape_attributes ha
    refine ⟨hnames name hmem, ?_⟩
    rcases hvalue with hvalue | rfl | ⟨x, rfl⟩
    · exact h value hvalue
    · show Simple "none"
      decide
    · exact simple_briefText x

omit hp in
theorem simple_glyph {kind : String} {shapes : List Svg.Shape} (h : Svg.glyph? kind = some shapes) :
    ∀ s ∈ shapes, ∀ t ∈ s.texts, Simple t := by
  unfold Svg.glyph? at h
  split at h
  case h_11 => cases h
  -- each glyph is a table of fixed texts
  all_goals
    cases h
    decide +kernel

theorem forall_symbol (kind : String) (height : Int) :
    AllOf p (charactersOf (Plan.symbol kind height)) := by
  unfold Plan.symbol
  cases hglyph : Svg.glyph? kind with
  | none => exact allOf_nil p
  | some shapes =>
    rw [charactersOf, charactersOf, List.append_nil,
      forall_moved_iff hp (by decide) (simple_fraction _), forall_charactersOf_iff,
      List.forall_mem_map]
    exact fun s hs => forall_shape hp (simple_glyph hglyph s hs)

/-- Of the attributes of an element only the one that is given matters. -/
theorem forall_given_iff {name key : String} {before after : List Pair} {value : List Char}
    {ts : List Tree} (hname : Simple name) (hbefore : ∀ a ∈ before, SimplePair a) (hkey : Simple key)
    (hafter : ∀ a ∈ after, SimplePair a) :
    AllOf p (characters (.element name (before ++ (key, value) :: after) ts)) ↔
      AllOf p value ∧ AllOf p (charactersOf ts) := by
  have hname : AllOf p name.toList := allOf_ordinary hp hname
  have hkey : AllOf p key.toList := allOf_ordinary hp hkey
  have hbefore := forall_pairs hp hbefore
  have hafter := forall_pairs hp hafter
  rw [characters, List.flatMap_append, List.flatMap_cons, allOf_append, allOf_append, allOf_append,
    allOf_append, allOf_append]
  simp only [hname, hkey, hbefore, hafter, true_and, and_true]

theorem forall_body_iff (d : Device) : AllOf p (charactersOf (Plan.body d)) ↔
    AllOf p (kept (Drawing.deviceColor d).toList) ∧ AllOf p (kept d.kind.toList) := by
  have hbefore : ∀ a ∈ [Plan.fixed "x" "0", Plan.fixed "y" "0", Plan.fixed "width" "300",
      Plan.fixed "height" (toString (d.height * 25))], SimplePair a := by
    simp only [List.forall_mem_cons]
    exact ⟨simplePair_fixed (by decide) (by decide), simplePair_fixed (by decide) (by decide),
      simplePair_fixed (by decide) (by decide), simplePair_fixed (by decide) (simple_integer _), by simp⟩
  have hafter : ∀ a ∈ [Plan.fixed "stroke" "black"], SimplePair a :=
    List.forall_mem_singleton.2 (simplePair_fixed (by decide) (by decide))
  have hkind : ∀ a ∈ Plan.centred "150" (Plan.middle d) "middle" ++ [Plan.fixed "font-size" "13"],
      SimplePair a :=
    simplePair_sized (by decide) (simplePair_centred (by decide) (simple_fraction _) (by decide))
  have hsymbol := forall_symbol hp d.kind (d.height * 25)
  have hnone : AllOf p (charactersOf []) := allOf_nil p
  rw [Plan.body, charactersOf_append, allOf_append, charactersOf, charactersOf, allOf_append,
    allOf_append, forall_label_iff hp hkind]
  have hrect : AllOf p (characters (.element "rect" ([Plan.fixed "x" "0", Plan.fixed "y" "0",
      Plan.fixed "width" "300", Plan.fixed "height" (toString (d.height * 25))] ++
        ("fill", kept (Drawing.deviceColor d).toList) :: [Plan.fixed "stroke" "black"]) [])) ↔ _ :=
    forall_given_iff hp (by decide) hbefore (by decide) hafter
  simp only [hnone, and_true] at hrect
  simp only [hsymbol, hnone, and_true]
  exact and_congr_left' hrect

theorem forall_link_iff (target : List Char) (ts : List Tree) :
    AllOf p (characters (Plan.link target ts)) ↔ AllOf p target ∧ AllOf p (charactersOf ts) :=
  forall_given_iff hp (by decide) (List.forall_mem_nil _) (by decide) (List.forall_mem_nil _)

theorem forall_name_iff (d : Device) :
    AllOf p (characters (Plan.name d)) ↔ AllOf p (kept d.name.toList) := by
  rw [Plan.name, forall_label_iff hp]
  exact simplePair_sized (by decide) (simplePair_centred (by decide) (simple_fraction _) (by decide))

theorem forall_device_iff (target : List Char) (d : Device) :
    AllOf p (charactersOf (Plan.device target d)) ↔
      (AllOf p target ∧ AllOf p (charactersOf (Plan.body d))) ∧ AllOf p (kept d.name.toList) := by
  have hbody : AllOf p (charactersOf (if target.isEmpty then Plan.body d
      else [Plan.link target (onLines (Plan.body d))])) ↔
      AllOf p target ∧ AllOf p (charactersOf (Plan.body d)) := by
    cases target with
    | nil => exact (and_iff_right (allOf_nil p)).symm
    | cons c target =>
      rw [if_neg (by simp), charactersOf, charactersOf, List.append_nil, forall_link_iff hp,
        forall_onLines_iff hp]
  have hname : AllOf p target → (AllOf p (charactersOf (if d.name.isEmpty then []
      else [if target.isEmpty then Plan.name d else Plan.link target [Plan.name d]])) ↔
      AllOf p (kept d.name.toList)) := by
    intro htarget
    by_cases hempty : d.name.isEmpty = true
    · have hnil : d.name = "" := by simpa using hempty
      rw [if_pos hempty, hnil]
      exact iff_of_true (allOf_nil p) (allOf_nil p)
    · rw [if_neg hempty, charactersOf, charactersOf, List.append_nil]
      split
      · exact forall_name_iff hp d
      · rw [forall_link_iff hp, and_iff_right htarget, charactersOf, charactersOf, List.append_nil,
          forall_name_iff hp]
  rw [Plan.device, charactersOf_append, allOf_append, hbody]
  exact and_congr_right fun h => hname h.1

omit hp in
theorem kept_target (base : Option String) (d : Device) :
    kept (Plan.target base d) = Plan.target base d := by
  unfold Plan.target
  split
  · rfl
  · split
    · rfl
    · split
      · simp [kept]
      · rfl

/-- A placed device shows its kind, its colour, its address and its name. -/
theorem forall_placed_iff (base : Option String) (bottom : Int) (q : Placed) :
    AllOf p (characters (Plan.placed base bottom q)) ↔ ∀ t ∈ q.device.shown base, AllOf p (kept t) := by
  rw [Plan.placed, forall_moved_iff hp (by decide) (simple_integer _), forall_device_iff hp,
    forall_body_iff hp]
  simp only [Device.shown, List.forall_mem_cons, kept_target, List.not_mem_nil, false_imp_iff,
    implies_true, and_true]
  tauto

/-! ## Racks -/

theorem forall_title_iff (name : String) :
    AllOf p (charactersOf (Plan.title name)) ↔ AllOf p (kept name.toList) := by
  unfold Plan.title
  by_cases hempty : name.isEmpty = true
  · have hnil : name = "" := by simpa using hempty
    rw [if_pos hempty, hnil]
    exact iff_of_true (allOf_nil p) (allOf_nil p)
  · rw [if_neg hempty, charactersOf, charactersOf, List.append_nil, forall_label_iff hp]
    exact simplePair_centred (by decide) (by decide) (by decide)

theorem forall_frame (height : Int) : AllOf p (characters (Plan.frame height)) := by
  rw [Plan.frame, forall_element_iff hp (by decide)]
  · exact allOf_nil p
  · simp only [List.forall_mem_cons]
    exact ⟨simplePair_fixed (by decide) (by decide), simplePair_fixed (by decide) (by decide),
      simplePair_fixed (by decide) (by decide), simplePair_fixed (by decide) (simple_integer _),
      simplePair_fixed (by decide) (by decide), simplePair_fixed (by decide) (by decide), by simp⟩

theorem forall_rack_iff (base : Option String) (r : Rack) :
    AllOf p (charactersOf (Plan.rack base r)) ↔ ∀ t ∈ r.shown base, AllOf p (kept t) := by
  have hframe := forall_frame hp r.height
  have hdevices : (∀ t ∈ r.layout.map (Plan.placed base (25 + r.height * 25)), AllOf p (characters t)) ↔
      ∀ d ∈ r.devices, ∀ t ∈ d.shown base, AllOf p (kept t) := by
    rw [List.forall_mem_map, ← forall_layout_iff]
    exact forall₂_congr fun q _ => forall_placed_iff hp base _ q
  rw [Plan.rack, charactersOf_append, allOf_append, forall_title_iff hp, charactersOf, allOf_append,
    and_iff_right hframe, forall_charactersOf_iff, hdevices, Rack.shown, List.forall_mem_cons,
    List.forall_mem_flatMap]

theorem forall_racks_iff (base : Option String) (i : Nat) (l : List Rack) :
    AllOf p (charactersOf (Plan.racks base i l)) ↔
      ∀ t ∈ l.flatMap (Rack.shown base), AllOf p (kept t) := by
  induction l generalizing i with
  | nil => exact iff_of_true (allOf_nil p) (List.forall_mem_nil _)
  | cons r l ih =>
    have hscale := forall_scale hp r.height
    rw [Plan.racks, charactersOf, charactersOf, allOf_append, allOf_append, ih,
      forall_moved_iff hp (simple_integer _) (by decide), and_iff_right hscale,
      forall_moved_iff hp (simple_integer _) (by decide), forall_rack_iff hp, List.flatMap_cons,
      List.forall_mem_append]

/-! ## Drawings -/

theorem forall_document_iff (s : RackSet) :
    AllOf p (characters (Plan.document s)) ↔ ∀ t ∈ s.shown, AllOf p (kept t) := by
  have hstyle : AllOf p (characters Plan.style) := allOf_ordinary hp (by decide +kernel)
  have hpattern : AllOf p (characters Plan.pattern) := allOf_ordinary hp (by decide +kernel)
  rw [Plan.document, forall_element_iff hp (by decide), forall_onLines_iff hp, charactersOf,
    charactersOf, allOf_append, allOf_append, and_iff_right hstyle, and_iff_right hpattern,
    forall_racks_iff hp, RackSet.shown]
  simp only [List.forall_mem_cons]
  exact ⟨simplePair_fixed (by decide) (by decide), simplePair_fixed (by decide) (by decide),
    simplePair_fixed (by decide) (by decide), simplePair_fixed (by decide) (by decide),
    simplePair_fixed (by decide) (simple_integer _), simplePair_fixed (by decide) (simple_integer _),
    by simp⟩

theorem forall_draw_iff {s : RackSet} {out : String} (h : Drawing.draw s = .ok out) :
    AllOf p out.toList ↔ ∀ t ∈ s.shown, AllOf p (kept t) := by
  obtain ⟨n, hn, rfl⟩ := Outcome.map_eq_ok.1 h
  have hdepicts := document_depicts hn
  rw [String.toList_ofList, forall_write_iff hp n hdepicts.clear, hdepicts.tree, forall_document_iff hp]

end Properties

/-! ## What a document may hold -/

theorem forall_kept_legal_iff {t : List Char} : AllOf Legal (kept t) ↔ AllOf (¬Noncharacter ·) t := by
  simp only [AllOf, kept, List.mem_filter, legal_iff, Bool.not_eq_true']
  constructor
  · intro h c hc hnon
    -- a character that is left out is a control character
    have hkept : isDropped c = false := by
      rw [isDropped_eq_false_iff]
      rcases hnon with hnon | hnon <;> omega
    exact (h c ⟨hc, hkept⟩).2 hnon
  · intro h c hc
    exact ⟨hc.2, h c hc.1⟩

theorem legal_draw_iff {s : RackSet} {out : String} (h : Drawing.draw s = .ok out) :
    AllOf (fun c => Legal c ∨ Noncharacter c) out.toList ∧
    (AllOf Legal out.toList ↔ ∀ t ∈ s.shown, AllOf (¬Noncharacter ·) t) := by
  constructor
  · rw [forall_draw_iff (fun c hc => .inl (legal_of_ordinary hc)) h]
    intro t _ c hc
    have hkept : isDropped c = false := by
      have := (List.mem_filter.1 hc).2
      simpa using this
    rw [legal_iff, and_iff_right hkept]
    exact (em (Noncharacter c)).symm
  · rw [forall_draw_iff (fun c hc => legal_of_ordinary hc) h]
    exact forall₂_congr fun t _ => forall_kept_legal_iff

theorem legal_draw_iff_tangled :
    ∃ out, Drawing.draw tangled = .ok out ∧
      (AllOf Legal out.toList ↔ ∀ t ∈ tangled.shown, AllOf (¬Noncharacter ·) t) := by
  obtain ⟨out, h⟩ := tangled_drawn
  exact ⟨out, h, (legal_draw_iff h).2⟩

/-- A rack set with a rack that is named for a character of no meaning. -/
def marred : RackSet := { racks := [{ name := "a\ufffeb", height := 1 }] }

theorem marred_not_legal :
    ∃ out, Drawing.draw marred = .ok out ∧ ¬AllOf Legal out.toList := by
  obtain ⟨out, h⟩ : Outcome.Succeeds (Drawing.draw marred) :=
    Outcome.succeeds_of_isOk (by decide +kernel)
  refine ⟨out, h, ?_⟩
  rw [forall_draw_iff (fun c hc => legal_of_ordinary hc) h]
  intro hlegal
  have hname := forall_kept_legal_iff.1 (hlegal "a\ufffeb".toList (by simp [marred, RackSet.shown, Rack.shown]))
  exact hname '\ufffe' (by decide) (.inl rfl)

end RackElevation
