import RackElevation.Proofs.RackText.Acceptance

/-
  What is read of rack-text

  The rack that comes of a text is told by its kept lines alone: the name stands
  after the first keyword, the height after the second, and each line of the
  list after the third gives a device. The numbers of the lines matter to faults
  only.

  What is proved:
    1. `readLines_eq_ok_iff` — the outcome of reading lines, line by line.
    2. `readLines_eq_ok_iff_reads`, `parse_eq_ok_iff` — lines or a text are read
       as a rack set exactly if the lines, or those that are kept, read as the one
       rack of the set.
-/

namespace RackElevation.RackText

open Text Outcome

/-- The kept lines of a document read as a rack. -/
def Grammar.Reads (ls : List (List Char)) (r : Rack) : Prop :=
  ∃ caption height heading rest digits, ls = caption :: height :: heading :: rest ∧
    "caption:".toList <+: caption ∧
    r.name = String.ofList (trim (caption.drop "caption:".toList.length)) ∧
    HeightNumeral height digits r.height ∧ digits.length ≤ Numeral.maxDigits ∧ 1 ≤ r.height ∧
    "items:".toList <+: heading ∧
    List.Forall₂ (fun l d => Describes (trim (l.drop 1)) d)
      (rest.takeWhile (·.head? == some '-')) r.devices

open Grammar

theorem readList_eq_ok_iff {last : Nat} {caption : Line} {height : Int} {ls : List Line}
    {s : RackSet} :
    readList last caption height ls = .ok s ↔ ∃ heading rest devices, ls = heading :: rest ∧
      "items:".toList <+: heading.text ∧
      List.Forall₂ (fun l d => deviceOf l = .ok d) (rest.takeWhile isItem) devices ∧
      s = { racks := [{ name := String.ofList caption.text, height := height, devices := devices }] } := by
  rw [outcome_readList (P := (· = .ok s)) fun _ _ h => nomatch h]
  constructor
  · intro h
    obtain ⟨heading, rest, hls, hheading, h⟩ := h
    obtain ⟨devices, hdevices, h⟩ := bind_eq_ok.1 h
    exact ⟨heading, rest, devices, hls, hheading, mapM_eq_ok.1 hdevices, (Except.ok.inj h).symm⟩
  · intro h
    obtain ⟨heading, rest, devices, hls, hheading, hdevices, rfl⟩ := h
    exact ⟨heading, rest, hls, hheading, bind_eq_ok.2 ⟨devices, mapM_eq_ok.2 hdevices, rfl⟩⟩

theorem readLines_eq_ok_iff {last : Nat} {ls : List Line} {s : RackSet} :
    readLines last ls = .ok s ↔ ∃ caption height heading rest n devices,
      ls = caption :: height :: heading :: rest ∧
      "caption:".toList <+: caption.text ∧ "height:".toList <+: height.text ∧
      rackHeight ⟨height.number, trim (height.text.drop "height:".toList.length)⟩ = .ok n ∧
      "items:".toList <+: heading.text ∧
      List.Forall₂ (fun l d => deviceOf l = .ok d) (rest.takeWhile isItem) devices ∧
      s = { racks := [⟨String.ofList (trim (caption.text.drop "caption:".toList.length)), n,
        devices⟩] } := by
  rw [outcome_readLines (P := (· = .ok s)) fun _ _ h => nomatch h]
  constructor
  · intro h
    obtain ⟨caption, height, rest, rfl, hcaption, hword, h⟩ := h
    obtain ⟨n, hn, h⟩ := bind_eq_ok.1 h
    obtain ⟨heading, list, devices, rfl, hheading, hdevices, rfl⟩ := readList_eq_ok_iff.1 h
    exact ⟨caption, height, heading, list, n, devices, rfl, hcaption, hword, hn, hheading, hdevices, rfl⟩
  · intro h
    obtain ⟨caption, height, heading, rest, n, devices, rfl, hcaption, hword, hn, hheading, hdevices,
      rfl⟩ := h
    refine ⟨caption, height, heading :: rest, rfl, hcaption, hword, bind_eq_ok.2 ⟨n, hn, ?_⟩⟩
    exact readList_eq_ok_iff.2 ⟨heading, rest, devices, rfl, hheading, hdevices, rfl⟩

/-- Each line of the list gives its device, whatever the numbers of the lines. -/
theorem describes_list_iff {rest : List Line} {devices : List Device} :
    List.Forall₂ (fun l d => deviceOf l = .ok d) (rest.takeWhile isItem) devices ↔
      List.Forall₂ (fun t d => Describes (trim (t.drop 1)) d)
        ((rest.map Line.text).takeWhile (·.head? == some '-')) devices := by
  have htexts : (rest.map Line.text).takeWhile (·.head? == some '-') =
      (rest.takeWhile isItem).map Line.text := List.takeWhile_map ..
  rw [htexts, List.forall₂_map_left_iff]
  simp only [deviceOf_eq_ok_iff]

theorem readLines_eq_ok_iff_reads {last : Nat} {ls : List Line} {s : RackSet} :
    readLines last ls = .ok s ↔ ∃ r, s = { racks := [r] } ∧ Reads (ls.map Line.text) r := by
  rw [readLines_eq_ok_iff]
  simp only [describes_list_iff, rackHeight_eq_ok_iff]
  constructor
  · intro h
    obtain ⟨caption, height, heading, rest, n, devices, rfl, hcaption, hword, ⟨digits, hint, hshort, hn⟩,
      hheading, hdevices, rfl⟩ := h
    refine ⟨⟨_, n, devices⟩, rfl, caption.text, height.text, heading.text, rest.map Line.text, digits,
      rfl, hcaption, rfl, ?_, hshort, hn, hheading, hdevices⟩
    exact heightNumeral_iff.2 ⟨hword, hint⟩
  · intro h
    obtain ⟨⟨_, n, devices⟩, rfl, _, _, _, _, digits, hls, hcaption, rfl, hheight, hshort, hn, hheading,
      hdevices⟩ := h
    obtain ⟨caption, body, rfl, rfl, hbody⟩ := List.map_eq_cons_iff.1 hls
    obtain ⟨height, tail, rfl, rfl, htail⟩ := List.map_eq_cons_iff.1 hbody
    obtain ⟨heading, rest, rfl, rfl, rfl⟩ := List.map_eq_cons_iff.1 htail
    obtain ⟨hword, hint⟩ := heightNumeral_iff.1 hheight
    exact ⟨caption, height, heading, rest, n, devices, rfl, hcaption, hword, ⟨digits, hint, hshort, hn⟩,
      hheading, hdevices, rfl⟩

theorem parse_eq_ok_iff {text : String} {s : RackSet} :
    parse text = .ok s ↔ ∃ r, s = { racks := [r] } ∧ Reads (kept text.toList) r := by
  rw [parse_eq, readLines_eq_ok_iff_reads, keptLines_text]

end RackElevation.RackText
