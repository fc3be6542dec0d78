import RackElevation.Conversion
import RackElevation.Proofs.RackML.Positions
import RackElevation.Proofs.RackText.Layout
import RackElevation.Proofs.Source
import RackElevation.Proofs.Xml.Trail

/-
  Blanks around a source

  Text made of lines is read line by line, and blanks around it go with the blank
  lines. A document is read with blanks around it exactly if they are such as XML
  allows there: spaces, tabs and line breaks, and behind the root nothing else.
  Before the root other blanks are allowed only if a declaration follows, as blanks
  before a declaration are dropped; and none is allowed before a byte order mark.

  Where the blanks are allowed the source is the same rack set, and its drawing the
  same with any resolver; where they are not, the source is refused.

  What is proved:
    1. `RackText.parse_padded` — text made of lines.
    2. `RackML.parse_padded` — documents.
    3. `Source.padded_iff` — sources and their drawings.
    4. `Source.padded_iff_host`, `Source.not_padded` (anti-vacuity) — a rack with a
       device between blanks, and a document behind a no-break space.
-/

namespace RackElevation

open Text Outcome

/-! ## Lines -/

namespace RackText

open Grammar

theorem parse_of_kept_eq {a b : String} (h : kept a.toList = kept b.toList) {s : RackSet}
    (ha : parse a = .ok s) : parse b = .ok s := by
  have hsame := sameOutcome_of_kept_eq h
  rw [ha] at hsame
  generalize parse b = y at hsame
  cases hsame
  rfl

/-- Blanks around lines do not matter. -/
theorem parse_padded {front text back : String} (hfront : Blanks front.toList)
    (hback : Blanks back.toList) {s : RackSet} (h : parse text = .ok s) :
    parse (front ++ text ++ back) = .ok s := by
  refine parse_of_kept_eq ?_ h
  rw [String.toList_append, String.toList_append, kept_append_blanks hback, kept_blanks_append hfront]

end RackText

/-! ## Documents -/

namespace RackML

open Xml

/-- A text that is not taken for text of two bytes a character, and whose entities may grow as far
behind these blanks. -/
structure Regular (front text : List Char) : Prop where
  single : startsWithPair text = false
  grows : ¬Declared (trimStart text) → GrowsAlike (byteCount front) text

/-- Blanks that may stand around a document: spaces behind it, and spaces before it unless it starts
with a byte order mark. Before a declaration all blanks are dropped. -/
structure Tolerated (front text back : List Char) : Prop where
  lead : front = [] ∨ Declared (trimStart text) ∨
    (∀ c ∈ front, isSpace c = true) ∧ text.head? ≠ some '\ufeff'
  trail : ∀ c ∈ back, isSpace c = true

/-- Blanks do not complete the start of a declaration. -/
theorem declared_append {s back : List Char} (hback : Blanks back) :
    Declared (s ++ back) ↔ Declared s := by
  refine ⟨fun hlong => ?_, fun hshort => hshort.trans (List.prefix_append s back)⟩
  rcases List.prefix_or_prefix_of_prefix hlong (List.prefix_append s back) with hshort | ⟨r, hr⟩
  · exact hshort
  · cases r with
    | nil =>
      rw [← List.append_nil s, hr]
      exact List.prefix_refl _
    | cons c r =>
      have hplain : (declarationStart.all fun d => !isBlank d) = true := by decide
      rw [Declared, ← hr, List.prefix_append_right_inj] at hlong
      have hblank := hback c (hlong.subset List.mem_cons_self)
      have hno := List.all_eq_true.1 hplain c (hr ▸ List.mem_append_right s List.mem_cons_self)
      rw [hblank] at hno
      cases hno

section Padded

variable {front text back : List Char} (hfront : Blanks front) (hback : Blanks back)

include hfront hback

/-- Of the text in blanks, what is read as a document. -/
theorem document_padded : document (front ++ text ++ back) =
    if Declared (trimStart text) then trimStart text ++ back else front ++ text ++ back := by
  rw [document_eq]
  rcases blanks_or_cons text with htext | ⟨blanks, c, r, rfl, hblanks, hc⟩
  · have hall : Blanks (front ++ text ++ back) :=
      List.forall_mem_append.2 ⟨List.forall_mem_append.2 ⟨hfront, htext⟩, hback⟩
    have hnone : ¬Declared [] := by decide
    rw [trimStart_blanks hall, trimStart_blanks htext, if_neg hnone, if_neg hnone]
  · have hlead : Blanks (front ++ blanks) := List.forall_mem_append.2 ⟨hfront, hblanks⟩
    have htrim : trimStart (front ++ (blanks ++ c :: r) ++ back) = c :: r ++ back := by
      rw [← List.append_assoc front, List.append_assoc, List.cons_append]
      exact trimStart_append hlead hc (r ++ back)
    rw [htrim, trimStart_append hblanks hc]
    exact if_congr (declared_append hback) rfl rfl

end Padded

/-- A text has spaces only, or a first character that is none. -/
theorem spaces_or_first (s : List Char) : (∀ c ∈ s, isSpace c = true) ∨
    ∃ spaces c r, s = spaces ++ c :: r ∧ (∀ d ∈ spaces, isSpace d = true) ∧ isSpace c = false := by
  cases hfind : s.find? fun c => !isSpace c with
  | none => exact .inl fun c hc => by simpa using List.find?_eq_none.1 hfind c hc
  | some c =>
    obtain ⟨hc, spaces, r, hsplit, hspaces⟩ := List.find?_eq_some_iff_append.1 hfind
    exact .inr ⟨spaces, c, r, hsplit, fun d hd => by simpa using hspaces d hd, by simpa using hc⟩

/-- A declaration is not taken for text of two bytes a character. -/
theorem single_of_declared {s : List Char} (h : Declared s) : startsWithPair s = false := by
  obtain ⟨r, rfl⟩ := h
  rfl

theorem trimStart_of_declared {s : List Char} (h : Declared s) : trimStart s = s := by
  obtain ⟨r, rfl⟩ := h
  exact trimStart_of_not_blank _ (by decide)

section Read

variable {front text back : List Char} (hfront : Blanks front) (hback : Blanks back)
  (hregular : Regular front text)

include hfront hback hregular

/-- Blanks that are not allowed before a document make it none. -/
theorem xmlParse_untolerated (hne : front ≠ [])
    (h : ¬((∀ c ∈ front, isSpace c = true) ∧ text.head? ≠ some '\ufeff')) (root : Node) :
    Xml.parse (front ++ text ++ back) ≠ .ok root := by
  have hplain : Plain (front ++ (text ++ back)) :=
    plain_lead hfront hne (startsWithPair_append hback hregular.single)
  rw [List.append_assoc]
  rcases spaces_or_first front with hspaces | ⟨spaces, c, r, rfl, hspaces, hc⟩
  · have hmark : text.head? = some '\ufeff' := Classical.byContradiction fun hmark => h ⟨hspaces, hmark⟩
    obtain ⟨r, rfl⟩ := List.head?_eq_some_iff.1 hmark
    have hrefused : Refused '\ufeff' := ⟨by decide, by decide, by decide⟩
    exact parse_refused hspaces hrefused hplain root
  · have hrefused : Refused c := refused_of_isBlank (hfront c (by simp)) hc
    rw [List.append_assoc, List.cons_append] at hplain ⊢
    exact parse_refused hspaces hrefused hplain root

theorem xmlParse_padded {root : Node} (h : Xml.parse (document text) = .ok root) (root' : Node) :
    Xml.parse (document (front ++ text ++ back)) = .ok root' ↔
      Tolerated front text back ∧ root' = root := by
  have htrail : (front = [] ∨ Declared (trimStart text) ∨
      (∀ c ∈ front, isSpace c = true) ∧ text.head? ≠ some '\ufeff') →
      ((∀ c ∈ back, isSpace c = true) ∧ root' = root ↔ Tolerated front text back ∧ root' = root) :=
    fun hlead => and_congr_left' ⟨fun htrail => ⟨hlead, htrail⟩, Tolerated.trail⟩
  rw [document_eq] at h
  rw [document_padded hfront hback]
  by_cases hdeclared : Declared (trimStart text)
  · rw [if_pos hdeclared] at h ⊢
    rw [parse_trail hback (single_of_declared hdeclared) h]
    exact htrail (.inr (.inl hdeclared))
  · rw [if_neg hdeclared] at h ⊢
    rcases eq_or_ne front [] with rfl | hne
    · rw [List.nil_append, parse_trail hback hregular.single h]
      exact htrail (.inl rfl)
    · by_cases hlead : (∀ c ∈ front, isSpace c = true) ∧ text.head? ≠ some '\ufeff'
      · have hstart : ¬Declared text :=
          fun hstart => hdeclared ((trimStart_of_declared hstart).symm ▸ hstart)
        have hlong := parse_lead hfront hlead.1 hne hstart (hregular.grows hdeclared)
          ⟨hregular.single, hlead.2⟩ h
        rw [parse_trail hback (plain_lead hfront hne hregular.single).single hlong]
        exact htrail (.inr (.inr hlead))
      · refine iff_of_false (xmlParse_untolerated hfront hback hregular hne hlead root') ?_
        intro htolerated
        rcases htolerated.1.lead with hnone | hyes | hyes
        · exact hne hnone
        · exact hdeclared hyes
        · exact hlead hyes

end Read

theorem parse_eq_ok {text : String} {s : RackSet} : parse text = .ok s ↔
    ∃ root, Xml.parse (document text.toList) = .ok root ∧ decode root = .ok s := by
  rw [parse, bind_eq_ok]
  exact exists_congr fun root => and_congr_left' mapError_eq_ok

/-- A document is read with blanks around it exactly if they are tolerated, and then it is the same
rack set. -/
theorem parse_padded {front text back : String} (hfront : Blanks front.toList)
    (hback : Blanks back.toList) (hregular : Regular front.toList text.toList) {s : RackSet}
    (h : parse text = .ok s) (s' : RackSet) : parse (front ++ text ++ back) = .ok s' ↔
      Tolerated front.toList text.toList back.toList ∧ s' = s := by
  obtain ⟨root, hroot, hdecode⟩ := parse_eq_ok.1 h
  rw [parse_eq_ok, String.toList_append, String.toList_append]
  constructor
  · intro h
    obtain ⟨root', hroot', hdecode'⟩ := h
    obtain ⟨htolerated, rfl⟩ := (xmlParse_padded hfront hback hregular hroot root').1 hroot'
    rw [hdecode] at hdecode'
    cases hdecode'
    exact ⟨htolerated, rfl⟩
  · intro h
    obtain ⟨htolerated, rfl⟩ := h
    exact ⟨root, (xmlParse_padded hfront hback hregular hroot root).2 ⟨htolerated, rfl⟩, hdecode⟩

end RackML

/-! ## Drawings -/

namespace Conversion

variable {resolver : Option Resolver} {dialect text text' : String} {s : RackSet}

/-- A rack set is not refused as a source. -/
theorem render_not_source (e : Source.Error) : render resolver s ≠ .error (.source e) := by
  intro h
  rcases bind_eq_error.1 h with h | ⟨t, _, h⟩
  · cases resolver with
    | none => cases h
    | some f =>
      obtain ⟨_, _, h⟩ := mapError_eq_error.1 h
      cases h
  · obtain ⟨_, _, h⟩ := mapError_eq_error.1 h
    cases h

/-- A source that is read as this rack set or refused has the drawing of the set exactly if it is
read. -/
theorem convert_eq_iff (h : Source.parse dialect text = .ok s)
    (h' : ∀ s', Source.parse dialect text' = .ok s' → s' = s) :
    convert resolver dialect text' = convert resolver dialect text ↔
      Source.parse dialect text' = .ok s := by
  rw [convert_of_parse h]
  constructor
  · intro hsame
    cases hread : Source.parse dialect text' with
    | ok s' => rw [h' s' hread]
    | error e =>
      have hrefused : convert resolver dialect text' = .error (.source e) := by
        rw [convert, hread]
        rfl
      rw [hrefused] at hsame
      exact absurd hsame.symm (render_not_source e)
  · intro hread
    exact convert_of_parse hread

end Conversion

/-! ## Sources -/

namespace Source

variable {dialect front text back : String}

/-- Blanks that may stand around a source in the dialect with a name: around lines, any. -/
def Tolerated (dialect front text back : String) : Prop :=
  Dialect.ofName? dialect = some .markup → RackML.Tolerated front.toList text.toList back.toList

/-- A source that is read is read with blanks around it exactly if they are tolerated, and then it is
the same rack set, and has the same drawing with and without a resolver. -/
theorem padded_iff (hfront : Blanks front.toList) (hback : Blanks back.toList)
    (hregular : Dialect.ofName? dialect = some .markup → RackML.Regular front.toList text.toList)
    {s : RackSet} (h : parse dialect text = .ok s) :
    (∀ s', parse dialect (front ++ text ++ back) = .ok s' ↔
      Tolerated dialect front text back ∧ s' = s) ∧
    ∀ resolver, Conversion.convert resolver dialect (front ++ text ++ back) =
      Conversion.convert resolver dialect text ↔ Tolerated dialect front text back := by
  have hread : ∀ s', parse dialect (front ++ text ++ back) = .ok s' ↔
      Tolerated dialect front text back ∧ s' = s := by
    intro s'
    obtain ⟨d, hd⟩ : ∃ d, Dialect.ofName? dialect = some d := by
      refine exists_dialect (Classical.byContradiction fun hno => ?_)
      rw [parse_unknown hno] at h
      cases h
    rw [parse_of_ofName? hd] at h ⊢
    cases d with
    | lines =>
      have hsame := RackText.parse_padded hfront hback (mapError_eq_ok.1 h)
      have htolerated : Tolerated dialect front text back := by
        intro hmarkup
        rw [hd] at hmarkup
        cases hmarkup
      rw [read, hsame, and_iff_right htolerated]
      exact Except.ok.injEq s s' ▸ eq_comm
    | markup =>
      rw [read, mapError_eq_ok, RackML.parse_padded hfront hback (hregular hd) (mapError_eq_ok.1 h),
        Tolerated, forall_prop_of_true hd]
  refine ⟨hread, fun resolver => ?_⟩
  rw [Conversion.convert_eq_iff h fun s' hs' => ((hread s').1 hs').2, hread s]
  exact and_iff_left rfl

/-- A document with a rack and a device. -/
def hostDocument : String :=
  "<racks><rack name=\"a\" height=\"2\"><server href=\"h\">web</server></rack></racks>"

/-- The same in lines. -/
def hostLines : String := "caption: a\nheight: 2\nitems:\n- server: [web](h)"

/-- The rack set that these are. -/
def hostSet : RackSet :=
  { racks := [{ name := "a", height := 2,
                devices := [{ kind := "server", name := "web", href := some "h" }] }] }

theorem padded_iff_host :
    parse "rackml" hostDocument = .ok hostSet ∧ parse "rack-text" hostLines = .ok hostSet ∧
    (∀ s, parse "rackml" ("\n " ++ hostDocument ++ "\t\r\n") = .ok s ↔ s = hostSet) ∧
    (∀ s, parse "rack-text" ("\u00a0\n" ++ hostLines ++ "\n\u2003") = .ok s ↔ s = hostSet) ∧
    ∀ resolver,
      Conversion.convert resolver "rackml" ("\n " ++ hostDocument ++ "\t\r\n") =
        Conversion.convert resolver "rackml" hostDocument ∧
      Conversion.convert resolver "rack-text" ("\u00a0\n" ++ hostLines ++ "\n\u2003") =
        Conversion.convert resolver "rack-text" hostLines := by
  have hdocument : parse "rackml" hostDocument = .ok hostSet := by decide +kernel
  have hlines : parse "rack-text" hostLines = .ok hostSet := by decide +kernel
  have hregular : RackML.Regular "\n ".toList hostDocument.toList := by
    refine ⟨by decide, fun _ => Xml.growsAlike_of_entities (fun d on h => ?_) _⟩
    have hprolog : Xml.readProlog {} .start (Xml.marks hostDocument.toList) =
        .ok ({}, hostDocument.toList) := by rfl
    rw [hprolog] at h
    cases h
    rfl
  have hspaces : Tolerated "rackml" "\n " hostDocument "\t\r\n" :=
    fun _ => ⟨.inr (.inr ⟨List.all_eq_true.1 (by decide), by decide⟩), List.all_eq_true.1 (by decide)⟩
  have hblanks : Tolerated "rack-text" "\u00a0\n" hostLines "\n\u2003" := fun h => by cases h
  obtain ⟨hread, hdrawing⟩ := padded_iff (List.all_eq_true.1 (by decide : "\n ".toList.all isBlank))
    (List.all_eq_true.1 (by decide : "\t\r\n".toList.all isBlank)) (fun _ => hregular) hdocument
  obtain ⟨hread', hdrawing'⟩ :=
    padded_iff (List.all_eq_true.1 (by decide : "\u00a0\n".toList.all isBlank))
      (List.all_eq_true.1 (by decide : "\n\u2003".toList.all isBlank)) (fun h => by cases h) hlines
  refine ⟨hdocument, hlines, fun s => ?_, fun s => ?_, fun resolver =>
    ⟨(hdrawing resolver).2 hspaces, (hdrawing' resolver).2 hblanks⟩⟩
  · rw [hread s, and_iff_right hspaces]
  · rw [hread' s, and_iff_right hblanks]

/-- A no-break space is blank, and a document is refused behind it. -/
theorem not_padded :
    parse "rackml" "<racks/>" = .ok {} ∧ Blanks "\u00a0".toList ∧
    parse "rackml" ("\u00a0" ++ "<racks/>") =
      .error (.markup (.malformed ⟨.invalidToken, ⟨1, 0⟩⟩)) := by
  exact ⟨by rfl, List.all_eq_true.1 (by decide), by rfl⟩

end Source

end RackElevation
