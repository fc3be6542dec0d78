import RackElevation.Proofs.Drawing.Depiction

/-
  The document of a rack set

  Each function that draws makes nodes that depict its part of the plan. The
  statements follow the functions: numbers, scale, device, rack, set.

  What is proved:
    1. `document_depicts` — a document depicts the plan of its rack set.
    2. `read_draw` — a drawing is cut into tags and texts in one way only, and
       read back it is the plan, whatever texts are in the rack set.
-/

namespace RackElevation

open Markup Entity Outcome

/-! ## Numbers -/

theorem integer_eq {n : Int} {t : String} (h : Drawing.integer n = .ok t) : t = toString n := by
  have h := mapError_eq_ok.1 h
  unfold Numeral.write at h
  split at h
  · cases h
  · exact (Except.ok.inj h).symm

theorem fraction_eq {x : Option Binary64} {fault : Binary64.Overflow} {t : String}
    (h : Drawing.fraction x fault = .ok t) : t = Plan.fraction x ∧ Literal t := by
  cases x with
  | none => cases h
  | some x =>
    have ht := Except.ok.inj h
    subst ht
    exact ⟨rfl, literal_plainText x⟩

/-! ## The scale -/

theorem showsAll_centred {x y anchor : String} (hx : Literal x) (hy : Literal y)
    (hanchor : Literal anchor) :
    ShowsAll (Drawing.centred x y anchor) (Plan.centred x y anchor) :=
  .cons (shows_fixed rfl hx) <| .cons (shows_fixed rfl hy) <| .cons (shows_fixed rfl hanchor) <|
    .cons (shows_fixed rfl (by decide)) <| .cons (shows_fixed rfl (by decide)) .nil

theorem showsAll_sized {size : String} (hsize : Literal size) {as : List Svg.Attribute}
    {ps : List Pair} (h : ShowsAll as ps) :
    ShowsAll (Drawing.sized size as) (ps ++ [Plan.fixed "font-size" size]) :=
  h.append (.cons (shows_fixed rfl hsize) .nil)

theorem depicts_moved {x y : String} {children : List Svg.Node} {ts : List Tree} (hx : Literal x)
    (hy : Literal y) (h : DepictsAll children ts) :
    Depicts (Drawing.moved x y children) (Plan.moved x y ts) := by
  -- the brackets and the comma are literal, and so are the numbers
  have hplace : Literal ("translate(" ++ x ++ ", " ++ y ++ ")") :=
    literal_append (literal_append (literal_append (literal_append (by decide) hx) (by decide)) hy)
      (by decide)
  exact depicts_group rfl (.cons (shows_fixed rfl hplace) .nil) h

theorem depicts_tick (y : Int) : Depicts (Drawing.tick (toString y)) (Plan.tick y) := by
  have hy : Literal (toString y) := literal_integer y
  exact depicts_leaf rfl <| .cons (shows_fixed rfl (by decide)) <| .cons (shows_fixed rfl hy) <|
    .cons (shows_fixed rfl (by decide)) <| .cons (shows_fixed rfl hy) <|
    .cons (shows_fixed rfl (by decide)) <| .cons (shows_fixed rfl (by decide)) .nil

theorem toString_int_ne_empty (n : Int) : toString n ≠ "" := by
  intro h
  have htext := congrArg String.toList h
  cases n with
  | ofNat m =>
    rw [Int.ofNat_eq_natCast, Numeral.toList_toString] at htext
    exact absurd htext Nat.toDigits_ne_nil
  | negSucc m =>
    rw [Numeral.toList_toString_negSucc] at htext
    cases htext

theorem scaleUnit_depicts {height unit : Int} {ns : List Svg.Node}
    (h : Drawing.scaleUnit height unit = .ok ns) :
    DepictsAll ns [Plan.unitNumber height unit, Plan.tick (Plan.unitTop height unit)] := by
  obtain ⟨middle, hmiddle, h⟩ := bind_eq_ok.1 h
  obtain ⟨number, hnumber, h⟩ := bind_eq_ok.1 h
  obtain ⟨edge, hedge, h⟩ := bind_eq_ok.1 h
  have hns := Except.ok.inj h
  subst hns
  obtain ⟨rfl, hliteral⟩ := fraction_eq hmiddle
  rw [integer_eq hnumber, integer_eq hedge]
  have hnumber : Depicts _ (Plan.unitNumber height unit) :=
    depicts_text rfl (showsAll_sized (by decide) (showsAll_centred (by decide) hliteral (by decide)))
      (literal_integer unit) (toString_int_ne_empty unit)
  exact .cons hnumber (DepictsAll.single (depicts_tick _))

theorem flatten_depicts {height : Int} {l : List Int} {rows : List (List Svg.Node)}
    (h : List.Forall₂ (fun u row => Drawing.scaleUnit height u = .ok row) l rows) :
    DepictsAll rows.flatten
      (l.flatMap fun u => [Plan.unitNumber height u, Plan.tick (Plan.unitTop height u)]) := by
  induction h with
  | nil => exact .nil
  | cons hrow _ ih => exact (scaleUnit_depicts hrow).append ih

theorem scale_depicts {height : Int} {ns : List Svg.Node} (h : Drawing.scale height = .ok ns) :
    DepictsAll ns (Plan.scale height) := by
  obtain ⟨rows, hrows, h⟩ := bind_eq_ok.1 h
  obtain ⟨bottom, hbottom, h⟩ := bind_eq_ok.1 h
  have hns := Except.ok.inj h
  subst hns
  rw [integer_eq hbottom]
  exact (flatten_depicts (mapM_eq_ok.1 hrows)).append (DepictsAll.single (depicts_tick _))

/-! ## Symbols -/

/-- The texts of a shape that are written as they stand. -/
def Svg.Shape.texts : Svg.Shape → List String
  | .path d fill stroke _ strokeLinecap fillRule =>
    [d, fill, stroke] ++ strokeLinecap.toList ++ fillRule.toList
  | .rect _ _ _ _ fill => [fill]
  | .circle _ _ _ fill stroke _ => [fill, stroke]

/-- An attribute whose value is written as it stands. -/
def PlainAttribute (a : Svg.Attribute) : Prop :=
  isName a.name.toList = true ∧ ∀ c ∈ a.value, isPlain c = true

theorem plainAttribute_plain {name value : String} (hn : isName name.toList = true)
    (hv : Literal value) : PlainAttribute (.plain name value) := ⟨hn, hv⟩

theorem showsAll_plain {as : List Svg.Attribute} (h : ∀ a ∈ as, PlainAttribute a) :
    ShowsAll as (as.map fun a => (a.name, a.value)) := by
  induction as with
  | nil => exact .nil
  | cons a as ih =>
    obtain ⟨⟨hn, hv⟩, has⟩ := List.forall_mem_cons.1 h
    -- a literal value is escaped to itself, so it is read back as it stands
    have hpair : pair a = (a.name, a.value) := by
      have := unescape_escape a.value
      rw [escape_of_plain hv, kept_of_plain hv] at this
      simp [pair, meaning, this]
    exact .cons ⟨⟨hn, a.value, (escape_of_plain hv).symm⟩, hpair⟩ (ih has)

/-- The names of the attributes of shapes. -/
def shapeNames : List String :=
  ["d", "fill", "stroke", "stroke-width", "stroke-linecap", "fill-rule", "x", "y", "width", "height",
   "cx", "cy", "r"]

/-- An attribute of a shape holds one of its texts, or a measure, or nothing to paint with. -/
theorem mem_shape_attributes {s : Svg.Shape} {a : Svg.Attribute} (h : a ∈ s.tag.attributes) :
    ∃ name ∈ shapeNames, ∃ value, a = .plain name value ∧
      (value ∈ s.texts ∨ value = "none" ∨ ∃ x : Real64, value = x.briefText) := by
  have hoptional : ∀ {name : String} {value : Option String}, a ∈ Svg.optional name value →
      ∃ v ∈ value, a = .plain name v := by
    intro name value h
    unfold Svg.optional at h
    split at h
    · cases h
    · split at h
      · cases h
      · exact ⟨_, rfl, List.mem_singleton.1 h⟩
  cases s with
  | path d fill stroke strokeWidth strokeLinecap fillRule =>
    simp only [Svg.Shape.tag, List.mem_append] at h
    simp only [Svg.Shape.texts, List.mem_append]
    rcases h with ((h | h) | h) | h
    · simp only [List.mem_cons, List.not_mem_nil, or_false] at h
      rcases h with rfl | rfl | rfl
      · exact ⟨"d", by decide, d, rfl, .inl (.inl (.inl (by simp)))⟩
      · exact ⟨"fill", by decide, fill, rfl, .inl (.inl (.inl (by simp)))⟩
      · exact ⟨"stroke", by decide, stroke, rfl, .inl (.inl (.inl (by simp)))⟩
    · obtain ⟨w, _, rfl⟩ := Option.map_eq_some_iff.1 (Option.mem_toList.1 h)
      exact ⟨"stroke-width", by decide, _, rfl, .inr (.inr ⟨w, rfl⟩)⟩
    · obtain ⟨v, hv, rfl⟩ := hoptional h
      exact ⟨"stroke-linecap", by decide, v, rfl, .inl (.inl (.inr (Option.mem_toList.2 hv)))⟩
    · obtain ⟨v, hv, rfl⟩ := hoptional h
      exact ⟨"fill-rule", by decide, v, rfl, .inl (.inr (Option.mem_toList.2 hv))⟩
  | rect x y width height fill =>
    simp only [Svg.Shape.tag, List.mem_cons, List.not_mem_nil, or_false] at h
    rcases h with rfl | rfl | rfl | rfl | rfl | rfl
    · exact ⟨"x", by decide, _, rfl, .inr (.inr ⟨x, rfl⟩)⟩
    · exact ⟨"y", by decide, _, rfl, .inr (.inr ⟨y, rfl⟩)⟩
    · exact ⟨"width", by decide, _, rfl, .inr (.inr ⟨width, rfl⟩)⟩
    · exact ⟨"height", by decide, _, rfl, .inr (.inr ⟨height, rfl⟩)⟩
    · exact ⟨"fill", by decide, fill, rfl, .inl (by simp [Svg.Shape.texts])⟩
    · exact ⟨"stroke", by decide, _, rfl, .inr (.inl rfl)⟩
  | circle cx cy r fill stroke strokeWidth =>
    simp only [Svg.Shape.tag, List.mem_cons, List.not_mem_nil, or_false] at h
    rcases h with rfl | rfl | rfl | rfl | rfl | rfl
    · exact ⟨"cx", by decide, _, rfl, .inr (.inr ⟨cx, rfl⟩)⟩
    · exact ⟨"cy", by decide, _, rfl, .inr (.inr ⟨cy, rfl⟩)⟩
    · exact ⟨"r", by decide, _, rfl, .inr (.inr ⟨r, rfl⟩)⟩
    · exact ⟨"stroke", by decide, stroke, rfl, .inl (by simp [Svg.Shape.texts])⟩
    · exact ⟨"fill", by decide, fill, rfl, .inl (by simp [Svg.Shape.texts])⟩
    · exact ⟨"stroke-width", by decide, _, rfl, .inr (.inr ⟨strokeWidth, rfl⟩)⟩

theorem plainAttribute_shape {s : Svg.Shape} (h : ∀ t ∈ s.texts, Literal t) :
    ∀ a ∈ s.tag.attributes, PlainAttribute a := by
  intro a ha
  obtain ⟨name, hname, value, rfl, hvalue⟩ := mem_shape_attributes ha
  have hnames : ∀ n ∈ shapeNames, isName n.toList = true := by decide
  refine plainAttribute_plain (hnames name hname) ?_
  rcases hvalue with hvalue | rfl | ⟨x, rfl⟩
  · exact h value hvalue
  · decide
  · exact literal_briefText x

theorem shape_depicts {s : Svg.Shape} (h : ∀ t ∈ s.texts, Literal t) :
    Depicts s.node (Plan.shape s) := by
  have hname : isName s.tag.name.toList = true := by
    cases s with
    | path => show isName "path".toList = true; decide
    | rect => show isName "rect".toList = true; decide
    | circle => show isName "circle".toList = true; decide
  exact depicts_leaf hname (showsAll_plain (plainAttribute_shape h))

theorem literal_glyph {kind : String} {shapes : List Svg.Shape} (h : Svg.glyph? kind = some shapes) :
    ∀ s ∈ shapes, ∀ t ∈ s.texts, Literal t := by
  unfold Svg.glyph? at h
  split at h
  case h_11 => cases h
  -- each glyph is a table of fixed texts
  all_goals
    cases h
    decide +kernel

theorem symbol_depicts {kind : String} {height : Int} {ns : List Svg.Node}
    (h : Drawing.symbol kind height = .ok ns) : DepictsAll ns (Plan.symbol kind height) := by
  unfold Drawing.symbol at h
  unfold Plan.symbol
  cases hglyph : Svg.glyph? kind with
  | none =>
    rw [hglyph] at h
    have hns := Except.ok.inj h
    subst hns
    exact .nil
  | some shapes =>
    rw [hglyph] at h
    obtain ⟨y, hy, h⟩ := bind_eq_ok.1 h
    have hns := Except.ok.inj h
    subst hns
    obtain ⟨rfl, hliteral⟩ := fraction_eq hy
    have hshapes : DepictsAll (shapes.map Svg.Shape.node) (shapes.map Plan.shape) := by
      rw [DepictsAll, List.forall₂_map_left_iff, List.forall₂_map_right_iff, List.forall₂_same]
      exact fun s hs => shape_depicts (literal_glyph hglyph s hs)
    exact DepictsAll.single (depicts_moved (by decide) hliteral hshapes)

/-! ## Devices -/

theorem deviceAddress_eq {base : Option String} {d : Device} {a : Option (List Char)}
    (h : Drawing.deviceAddress base d = .ok a) :
    (a = none ∧ Plan.target base d = []) ∨
      ∃ s, a = some (escape s) ∧ kept s = Plan.target base d ∧ Plan.target base d ≠ [] := by
  unfold Drawing.deviceAddress at h
  unfold Plan.target
  cases hhref : d.href with
  | none =>
    rw [hhref] at h
    exact .inl ⟨(Except.ok.inj h).symm, by simp⟩
  | some href =>
    rw [hhref] at h
    by_cases hempty : href.isEmpty = true
    · simp only [if_pos hempty] at h ⊢
      exact .inl ⟨(Except.ok.inj h).symm, trivial⟩
    · simp only [if_neg hempty] at h ⊢
      obtain ⟨s, hs, h⟩ := bind_eq_ok.1 h
      rw [mapError_eq_ok.1 hs]
      have ha := (Except.ok.inj h).symm
      rw [isEmpty_escape] at ha
      -- the link is left out when its escaped form is empty, which is when nothing is kept of it
      by_cases hkept : (kept s).isEmpty = true
      · exact .inl ⟨by rw [ha, if_pos hkept], List.isEmpty_iff.1 hkept⟩
      · exact .inr ⟨s, by rw [ha, if_neg hkept], rfl, by simpa using hkept⟩

theorem captioned_depicts {x y anchor : String} (hx : Literal x) (hy : Literal y)
    (hanchor : Literal anchor) (s : String) :
    Depicts (.label ⟨"text", Drawing.sized "13" (Drawing.centred x y anchor)⟩ s.toList)
      (Plan.label (Plan.centred x y anchor ++ [Plan.fixed "font-size" "13"]) s) :=
  depicts_label (showsAll_sized (by decide) (showsAll_centred hx hy hanchor)) s

theorem body_depicts {d : Device} {symbol : List Svg.Node}
    (hsymbol : Drawing.symbol d.kind (d.height * 25) = .ok symbol) (hmiddle : Literal (Plan.middle d)) :
    DepictsAll ([.leaf ⟨"rect", [.plain "x" "0", .plain "y" "0", .plain "width" "300",
        .plain "height" (toString (d.height * 25)), .escaped "fill" (Drawing.deviceColor d).toList,
        .plain "stroke" "black"]⟩,
      .label ⟨"text", Drawing.sized "13" (Drawing.centred "150" (Plan.middle d) "middle")⟩
        d.kind.toList] ++ symbol) (Plan.body d) := by
  refine DepictsAll.append (.cons (depicts_leaf rfl ?_) (DepictsAll.single ?_)) (symbol_depicts hsymbol)
  · exact .cons (shows_fixed rfl (by decide)) <| .cons (shows_fixed rfl (by decide)) <|
      .cons (shows_fixed rfl (by decide)) <| .cons (shows_fixed rfl (literal_integer _)) <|
      .cons (shows_given rfl _) <| .cons (shows_fixed rfl (by decide)) .nil
  · exact captioned_depicts (by decide) hmiddle (by decide) d.kind

/-- A node in a link, if there is an address. -/
def linked (a : Option (List Char)) (n : Svg.Node) : Svg.Node :=
  match a with
  | some a => .around (Drawing.linkTag a) n
  | none => n

/-- Nodes in a link on lines of their own, if there is an address. -/
def linkedAll (a : Option (List Char)) (ns : List Svg.Node) : List Svg.Node :=
  match a with
  | some a => [.group (Drawing.linkTag a) ns]
  | none => ns

section Links

variable {base : Option String} {d : Device} {a : Option (List Char)}

theorem linked_depicts (h : Drawing.deviceAddress base d = .ok a) {n : Svg.Node} {t : Tree}
    (hn : Depicts n t) :
    Depicts (linked a n)
      (if (Plan.target base d).isEmpty then t else Plan.link (Plan.target base d) [t]) := by
  rcases deviceAddress_eq h with ⟨rfl, htarget⟩ | ⟨s, rfl, hs, hne⟩
  · simpa [htarget, linked] using hn
  · rw [if_neg (by simpa using hne), ← hs]
    exact depicts_around rfl (.cons (shows_given rfl s) .nil) hn

theorem linkedAll_depicts (h : Drawing.deviceAddress base d = .ok a) {ns : List Svg.Node}
    {ts : List Tree} (hns : DepictsAll ns ts) :
    DepictsAll (linkedAll a ns)
      (if (Plan.target base d).isEmpty then ts else [Plan.link (Plan.target base d) (onLines ts)]) := by
  rcases deviceAddress_eq h with ⟨rfl, htarget⟩ | ⟨s, rfl, hs, hne⟩
  · simpa [htarget, linkedAll] using hns
  · rw [if_neg (by simpa using hne), ← hs]
    exact DepictsAll.single (depicts_group rfl (.cons (shows_given rfl s) .nil) hns)

end Links

theorem device_depicts {base : Option String} {d : Device} {ns : List Svg.Node}
    (h : Drawing.device base d = .ok ns) :
    DepictsAll ns (Plan.device (Plan.target base d) d) := by
  obtain ⟨middle, hmiddle, h⟩ := bind_eq_ok.1 h
  obtain ⟨href, hhref, h⟩ := bind_eq_ok.1 h
  obtain ⟨heightText, hheight, h⟩ := bind_eq_ok.1 h
  obtain ⟨symbol, hsymbol, h⟩ := bind_eq_ok.1 h
  have hns := (Except.ok.inj h).symm
  obtain ⟨rfl, hliteral⟩ := fraction_eq hmiddle
  rw [integer_eq hheight] at hns
  have hbody := linkedAll_depicts hhref (body_depicts hsymbol hliteral)
  have hname : Depicts _ (Plan.name d) :=
    captioned_depicts (by decide) hliteral (by decide) d.name
  have hname := linked_depicts hhref hname
  rw [hns]
  unfold Plan.device
  by_cases hempty : d.name.isEmpty = true
  · rw [if_pos hempty, if_pos hempty, List.append_nil]
    exact hbody
  · rw [if_neg hempty, if_neg hempty]
    exact hbody.append (DepictsAll.single hname)

theorem placed_depicts {base : Option String} {bottom : Int} {p : Placed} {n : Svg.Node}
    (h : Drawing.placed base bottom p = .ok n) : Depicts n (Plan.placed base bottom p) := by
  obtain ⟨y, hy, h⟩ := bind_eq_ok.1 h
  obtain ⟨nodes, hnodes, h⟩ := bind_eq_ok.1 h
  have hn := Except.ok.inj h
  subst hn
  rw [integer_eq hy]
  exact depicts_moved (by decide) (literal_integer _) (device_depicts hnodes)

/-! ## Racks -/

theorem title_depicts (name : String) : DepictsAll (Drawing.title name) (Plan.title name) := by
  unfold Drawing.title Plan.title
  by_cases hempty : name.isEmpty = true
  · rw [if_pos hempty, if_pos hempty]
    exact .nil
  · rw [if_neg hempty, if_neg hempty]
    have hplace : ShowsAll (Drawing.centred "150" "14.5" "middle") _ :=
      showsAll_centred (by decide) (by decide) (by decide)
    exact DepictsAll.single (depicts_label hplace name)

theorem rack_depicts {base : Option String} {r : Rack} {ns : List Svg.Node}
    (h : Drawing.rack base r = .ok ns) : DepictsAll ns (Plan.rack base r) := by
  obtain ⟨height, hheight, h⟩ := bind_eq_ok.1 h
  obtain ⟨devices, hdevices, h⟩ := bind_eq_ok.1 h
  have hns := Except.ok.inj h
  subst hns
  rw [integer_eq hheight]
  have hframe : Depicts _ (Plan.frame r.height) :=
    depicts_leaf rfl <| .cons (shows_fixed rfl (by decide)) <| .cons (shows_fixed rfl (by decide)) <|
      .cons (shows_fixed rfl (by decide)) <| .cons (shows_fixed rfl (literal_integer _)) <|
      .cons (shows_fixed rfl (by decide)) <| .cons (shows_fixed rfl (by decide)) .nil
  have hplaced : DepictsAll devices (r.layout.map (Plan.placed base (25 + r.height * 25))) := by
    rw [DepictsAll, List.forall₂_map_right_iff]
    exact ((mapM_eq_ok.1 hdevices).imp fun _ _ hp => placed_depicts hp).flip
  exact (title_depicts r.name).append (.cons hframe hplaced)

theorem racks_depicts {base : Option String} {l : List Rack} {i : Nat} {ns : List Svg.Node}
    (h : Drawing.racks base (25 + 325 * i) l = .ok ns) : DepictsAll ns (Plan.racks base i l) := by
  induction l generalizing i ns with
  | nil =>
    have hns := Except.ok.inj h
    subst hns
    exact .nil
  | cons r l ih =>
    obtain ⟨scaleNodes, hscale, h⟩ := bind_eq_ok.1 h
    obtain ⟨rackNodes, hrack, h⟩ := bind_eq_ok.1 h
    obtain ⟨others, hothers, h⟩ := bind_eq_ok.1 h
    have hns := Except.ok.inj h
    subst hns
    -- each rack moves the next one by its width and the space after it
    have hnext : (25 + 325 * i : Int) + rackWidth + rackSpacing = 25 + 325 * (i + 1 : Nat) := by
      rw [rackWidth, rackSpacing]
      omega
    rw [hnext] at hothers
    exact .cons (depicts_moved (literal_integer _) (by decide) (scale_depicts hscale)) <|
      .cons (depicts_moved (literal_integer _) (by decide) (rack_depicts hrack)) (ih hothers)

/-! ## The document -/

theorem style_depicts : Depicts Drawing.style Plan.style :=
  depicts_text rfl .nil (by decide) (by decide)

theorem pattern_depicts : Depicts Drawing.pattern Plan.pattern := by
  refine depicts_around rfl ?_ (depicts_leaf rfl ?_)
  · exact .cons (shows_fixed rfl (by decide)) <| .cons (shows_fixed rfl (by decide)) <|
      .cons (shows_fixed rfl (by decide)) <| .cons (shows_fixed rfl (by decide)) .nil
  · exact .cons (shows_fixed rfl (by decide)) <| .cons (shows_fixed rfl (by decide)) <|
      .cons (shows_fixed rfl (by decide)) <| .cons (shows_fixed rfl (by decide)) .nil

theorem document_depicts {s : RackSet} {n : Svg.Node} (h : Drawing.document s = .ok n) :
    Depicts n (Plan.document s) := by
  obtain ⟨width, hwidth, h⟩ := bind_eq_ok.1 h
  obtain ⟨height, hheight, h⟩ := bind_eq_ok.1 h
  obtain ⟨groups, hgroups, h⟩ := bind_eq_ok.1 h
  have hn := Except.ok.inj h
  subst hn
  rw [integer_eq hwidth, integer_eq hheight]
  refine depicts_group rfl ?_ (.cons style_depicts (.cons pattern_depicts ?_))
  · exact .cons (shows_fixed rfl (by decide)) <| .cons (shows_fixed rfl (by decide)) <|
      .cons (shows_fixed rfl (by decide)) <| .cons (shows_fixed rfl (by decide)) <|
      .cons (shows_fixed rfl (literal_integer _)) <|
      .cons (shows_fixed rfl (literal_integer _)) .nil
  · exact racks_depicts (i := 0) hgroups

/-! ## The drawing -/

theorem target_of_rack {base : Option String} {r : Rack} {ns : List Svg.Node}
    (h : Drawing.rack base r = .ok ns) {d : Device} (hd : d ∈ r.devices) {href : String}
    (hhref : d.href = some href) (hne : href ≠ "") :
    ∃ a, Drawing.address base href = .ok a ∧ Plan.target base d = kept a := by
  -- the layout loses no device, so the drawing of the rack went through this one
  have hlayout : d ∈ r.layout.map Placed.device := by
    rw [r.layout_device]
    exact List.mem_reverse.2 hd
  obtain ⟨p, hp, rfl⟩ := List.mem_map.1 hlayout
  obtain ⟨_, _, h⟩ := bind_eq_ok.1 h
  obtain ⟨devices, hdevices, _⟩ := bind_eq_ok.1 h
  obtain ⟨n, hn⟩ := succeeds_mapM.1 ⟨devices, hdevices⟩ p hp
  obtain ⟨_, _, hn⟩ := bind_eq_ok.1 hn
  obtain ⟨_, hdevice, _⟩ := bind_eq_ok.1 hn
  obtain ⟨_, _, hdevice⟩ := bind_eq_ok.1 hdevice
  obtain ⟨_, haddress, _⟩ := bind_eq_ok.1 hdevice
  have hempty : ¬href.isEmpty = true := by simpa using hne
  simp only [Drawing.deviceAddress, hhref, if_neg hempty] at haddress
  obtain ⟨a, ha, _⟩ := bind_eq_ok.1 haddress
  refine ⟨a, mapError_eq_ok.1 ha, ?_⟩
  simp only [Plan.target, hhref, if_neg hempty, mapError_eq_ok.1 ha]

theorem rack_of_racks {base : Option String} {x : Int} {l : List Rack} {ns : List Svg.Node}
    (h : Drawing.racks base x l = .ok ns) {r : Rack} (hr : r ∈ l) :
    ∃ ms, Drawing.rack base r = .ok ms := by
  induction l generalizing x ns with
  | nil => cases hr
  | cons q l ih =>
    obtain ⟨_, _, h⟩ := bind_eq_ok.1 h
    obtain ⟨ms, hms, h⟩ := bind_eq_ok.1 h
    obtain ⟨_, hothers, _⟩ := bind_eq_ok.1 h
    rcases List.mem_cons.1 hr with rfl | hr
    · exact ⟨ms, hms⟩
    · exact ih hothers hr

theorem rack_of_document {s : RackSet} {n : Svg.Node} (h : Drawing.document s = .ok n) {r : Rack}
    (hr : r ∈ s.racks) : ∃ ms, Drawing.rack s.base r = .ok ms := by
  obtain ⟨_, _, h⟩ := bind_eq_ok.1 h
  obtain ⟨_, _, h⟩ := bind_eq_ok.1 h
  obtain ⟨_, hgroups, _⟩ := bind_eq_ok.1 h
  exact rack_of_racks hgroups hr

theorem read_of_draw {s : RackSet} {out : String} (h : Drawing.draw s = .ok out) :
    Markup.read out.toList = some (Plan.document s) := by
  obtain ⟨n, hn, rfl⟩ := map_eq_ok.1 h
  have hdepicts := document_depicts hn
  rw [String.toList_ofList, read_write hdepicts.clear, hdepicts.tree]

theorem read_draw {s : RackSet} {out : String} (h : Drawing.draw s = .ok out) :
    (∃ ps, Cuts out.toList ps ∧ ∀ qs, Cuts out.toList qs → qs = ps) ∧
    Markup.read out.toList = some (Plan.document s) ∧
    ∀ r ∈ s.racks,
      ((Plan.scale r.height).filter (Plan.kind · == "text")).map Plan.inside =
        (List.range r.height.toNat).map (fun (i : Nat) => (toString (r.height - i)).toList) ∧
      ((Plan.scale r.height).filter (Plan.kind · == "line")).length = r.height.toNat + 1 ∧
      r.layout.map Placed.device = r.devices.reverse ∧
      ∀ d ∈ r.devices, ∀ href ∈ d.href, href ≠ "" →
        ∃ a, Drawing.address s.base href = .ok a ∧ Plan.target s.base d = kept a := by
  obtain ⟨n, hn, hout⟩ := map_eq_ok.1 h
  have hdepicts := document_depicts hn
  refine ⟨?_, read_of_draw h, ?_⟩
  · rw [← hout, String.toList_ofList]
    exact existsUnique_cuts (pieces_of_clear hdepicts.clear)
  · intro r hr
    refine ⟨Plan.scale_numbers r.height, Plan.scale_ticks r.height, r.layout_device, ?_⟩
    intro d hd href hhref hne
    obtain ⟨ms, hms⟩ := rack_of_document hn hr
    exact target_of_rack hms hd hhref hne

/-- A rack set whose texts look like markup. -/
def tangled : RackSet :=
  { base := some "http://h/a"
    racks := [
      { name := "<a>&\"", height := 3
        devices := [
          { kind := "server", name := "\"><script>", href := some "b?c=1&d=<2>" },
          { kind := "</text>", name := "\x01", href := some "\x01", color := some "'\"/>" }] },
      { height := 1 }] }

theorem tangled_drawn : Succeeds (Drawing.draw tangled) := succeeds_of_isOk (by decide +kernel)

theorem read_draw_tangled :
    ∃ out, Drawing.draw tangled = .ok out ∧
      Markup.read out.toList = some (Plan.document tangled) := by
  obtain ⟨out, h⟩ := tangled_drawn
  obtain ⟨_, hread, _⟩ := read_draw h
  exact ⟨out, h, hread⟩

end RackElevation
