import RackElevation.Proofs.RackText.Kept
import RackElevation.Proofs.RackText.Result

/-
  Which line is to blame

  Lines are judged one after another, and the first one that does not pass ends
  the reading. So a fault belongs to the line whose number it has, and nothing
  after that line matters: each reader either runs out of lines, or blames a line
  of its own whatever stands behind it. That property passes from what follows a
  line to the reader that takes the line first, and a document is three such
  readers around a list.

  In the same way an accepted text is not read beyond its last item.

  What is proved:
    1. `blames_keyword`, `blames_rackHeight`, `blames_deviceOf` — the fault of a
       line that is judged is a fault of that line.
    2. `Locates.step`, `locates_list`, `locates_readLines` — how a fault is
       located by a reader.
    3. `message_eq_end_iff` — the end of the input is known by its message.
    4. `parse_extent` — where a text is faulty, or its list ends, nothing later
       matters.
-/

namespace RackElevation.RackText

open Text Outcome Grammar

/-! ## The fault of a line -/

/-- A fault, if there is one, belongs to the line. -/
def Blames {α : Type} (l : Line) (x : Except Error α) : Prop :=
  ∀ fault n, x = .error (.format fault n) → n = l.number ∧ fault ≠ .endOfInput

theorem blames_ok {α : Type} (l : Line) (a : α) : Blames l (.ok a : Except Error α) :=
  fun _ _ h => nomatch h

theorem blames_numeral {α : Type} (l : Line) (fault : Numeral.Fault) :
    Blames l (.error (.numeral fault) : Except Error α) := fun _ _ h => nomatch h

theorem blames_format {α : Type} {fault : Fault} (h : fault ≠ .endOfInput) (l : Line) :
    Blames l (.error (.format fault l.number) : Except Error α) := by
  intro _ _ heq
  cases heq
  exact ⟨rfl, h⟩

theorem blames_bind {α β : Type} {l : Line} {x : Except Error α} {f : α → Except Error β}
    (hx : Blames l x) (hf : ∀ a, x = .ok a → Blames l (f a)) : Blames l (x >>= f) := by
  intro fault n h
  rcases bind_eq_error.1 h with h | ⟨a, ha, h⟩
  · exact hx fault n h
  · exact hf a ha fault n h

theorem blames_keyword (word : String) (l : Line) : Blames l (keyword word l) := by
  unfold keyword
  split
  · exact blames_ok l _
  · exact blames_format (by simp) l

theorem blames_rackHeight (l : Line) : Blames l (rackHeight l) := by
  by_cases hint : ∃ digits n, Numeral.Integer l.text digits n
  · obtain ⟨digits, n, hint⟩ := hint
    rw [rackHeight_of_integer hint]
    split
    · exact blames_numeral l _
    split
    · exact blames_format (by simp) l
    · exact blames_ok l n
  · rw [rackHeight_of_not_integer hint]
    exact blames_format (by simp) l

/-- The height is read from what follows its keyword, which has the number of the line. -/
theorem blames_heightLine (l : Line) : Blames l (keyword "height:" l >>= rackHeight) := by
  apply blames_bind (blames_keyword _ l)
  intro line hline
  have hnumber : line.number = l.number := by
    unfold keyword at hline
    split at hline <;> cases hline
    rfl
  intro fault n h
  rw [← hnumber]
  exact blames_rackHeight line fault n h

theorem blames_deviceOf (l : Line) : Blames l (deviceOf l) := by
  unfold deviceOf readItem
  cases Item.split (trim (l.text.drop 1)) with
  | none =>
    dsimp only
    split
    · exact blames_format (by simp) l
    · exact blames_format (by simp) l
  | some item =>
    dsimp only
    rw [device_eq_ite]
    split
    · exact blames_ok l _
    split
    · exact blames_numeral l _
    split
    · exact blames_format (by simp) l
    · exact blames_ok l _

/-! ## The fault of a document -/

section Locates

variable {α β : Type} {needs : Nat}

/-- A reader that fails runs out of the lines it needs, or it blames one of its lines, and would so
with any lines after that one. -/
def Locates (needs : Nat) (read : Nat → List Line → Except Error α) : Prop :=
  ∀ last ls fault n, read last ls = .error (.format fault n) →
    (fault = .endOfInput ∧ n = last ∧ ls.length < needs) ∨
    fault ≠ .endOfInput ∧ ∃ before l after, ls = before ++ l :: after ∧ n = l.number ∧
      ∀ last' after', read last' (before ++ l :: after') = .error (.format fault n)

/-- A reader that judges one line before it hands the rest on. -/
theorem Locates.step {judge : Line → Except Error α} {read : α → Nat → List Line → Except Error β}
    (hjudge : ∀ l, Blames l (judge l)) (hread : ∀ a, Locates needs (read a)) :
    Locates (needs + 1) (byLine judge read) := by
  intro last ls fault n h
  cases ls with
  | nil =>
    cases h
    exact .inl ⟨rfl, rfl, Nat.succ_pos needs⟩
  | cons l rest =>
    have h : (judge l >>= fun a => read a last rest) = .error (.format fault n) := h
    rcases bind_eq_error.1 h with hl | ⟨a, ha, hrest⟩
    · obtain ⟨hn, hfault⟩ := hjudge l fault n hl
      refine .inr ⟨hfault, [], l, rest, rfl, hn, fun last' after' => ?_⟩
      show (judge l >>= fun a => read a last' after') = _
      exact bind_eq_error.2 (.inl hl)
    · rcases hread a last rest fault n hrest with ⟨hfault, hn, hlength⟩ | ⟨hfault, hblame⟩
      · exact .inl ⟨hfault, hn, Nat.succ_lt_succ hlength⟩
      · obtain ⟨before, k, after, rfl, hn, hlater⟩ := hblame
        refine .inr ⟨hfault, l :: before, k, after, rfl, hn, fun last' after' => ?_⟩
        show (judge l >>= fun a => read a last' (before ++ k :: after')) = _
        exact bind_eq_error.2 (.inr ⟨a, ha, hlater last' after'⟩)

/-- The list blames its first line that is no item, whatever follows. -/
theorem locates_list (f : List Device → β) :
    Locates 0 fun _ ls => (ls.takeWhile isItem).mapM deviceOf >>= fun devices => pure (f devices) := by
  intro last ls fault n h
  rcases bind_eq_error.1 h with h | ⟨_, _, h⟩
  · obtain ⟨before, l, after, hlist, hbefore, hl⟩ := mapM_eq_error.1 h
    obtain ⟨hn, hfault⟩ := blames_deviceOf l fault n hl
    have hls : ls = before ++ l :: (after ++ ls.dropWhile isItem) := by
      rw [← List.cons_append, ← List.append_assoc, ← hlist, List.takeWhile_append_dropWhile]
    have hitems : ∀ k ∈ before ++ [l], isItem k = true := by
      intro k hk
      have hmem : k ∈ ls.takeWhile isItem := by
        rw [hlist, List.append_cons]
        exact List.mem_append_left after hk
      exact mem_takeWhile hmem
    refine .inr ⟨hfault, before, l, _, hls, hn, fun last' after' => ?_⟩
    refine bind_eq_error.2 (.inl (mapM_eq_error.2 ⟨before, l, after'.takeWhile isItem, ?_, hbefore, hl⟩))
    rw [List.append_cons, List.takeWhile_append_of_pos hitems, ← List.append_cons]
  · cases h

theorem locates_readLines : Locates 3 readLines := by
  have hlist : ∀ caption height, Locates 1 fun last => readList last caption height := by
    intro caption height
    rw [readList_eq_byLine]
    exact .step (blames_keyword _) fun _ => locates_list _
  have hbody : ∀ caption, Locates 2 fun last => readBody last caption := by
    intro caption
    rw [readBody_eq_byLine]
    exact .step blames_heightLine (hlist caption)
  rw [readLines_eq_byLine]
  exact .step (blames_keyword _) hbody

end Locates

/-! ## Texts -/

theorem head?_append {s : String} {c : Char} (h : s.toList.head? = some c) (t : String) :
    (s ++ t).toList.head? = some c := by
  rw [String.toList_append, List.head?_append, h]
  rfl

theorem head?_message {fault : Fault} (h : fault ≠ .endOfInput) :
    ∃ c ≠ 'u', fault.message.toList.head? = some c := by
  cases fault with
  | endOfInput => exact absurd rfl h
  | expected keyword line =>
    exact ⟨'e', by decide, head?_append (head?_append (head?_append (by decide +kernel) _) _) _⟩
  | invalidHeight text => exact ⟨'i', by decide, head?_append (by decide +kernel) _⟩
  | rackTooLow height => exact ⟨'r', by decide, head?_append (by decide +kernel) _⟩
  | noColon => exact ⟨'e', by decide, by decide +kernel⟩
  | invalidKey key => exact ⟨'i', by decide, head?_append (by decide +kernel) _⟩
  | itemTooLow height => exact ⟨'i', by decide, head?_append (by decide +kernel) _⟩

/-- No other message starts with the letter of this one. -/
theorem message_eq_end_iff {fault : Fault} :
    fault.message = "unexpected end of input" ↔ fault = .endOfInput := by
  refine ⟨fun h => ?_, fun h => by rw [h]; rfl⟩
  by_contra hfault
  obtain ⟨c, hc, hhead⟩ := head?_message hfault
  have hend : "unexpected end of input".toList.head? = some 'u' := by decide +kernel
  rw [h, hend] at hhead
  exact hc (Option.some.inj hhead).symm

/-- The number is that of the last kept line, or one if there is none. -/
def IsLast (text : List Char) (n : Nat) : Prop :=
  kept text = [] ∧ n = 1 ∨ ∃ place, place + 1 = (kept text).length ∧ KeptAt text place n

theorem length_keptLines (text : List Char) : (keptLines text).length = (kept text).length := by
  rw [← keptLines_text, List.length_map]

theorem isLast_lastNumber (text : String) : IsLast text.toList (Cursor.ofText text).lastNumber := by
  cases hlast : (keptLines text.toList).getLast? with
  | none =>
    have hnone : keptLines text.toList = [] := List.getLast?_eq_none_iff.1 hlast
    refine .inl ⟨?_, ?_⟩
    · rw [← keptLines_text, hnone, List.map_nil]
    · rw [Cursor.ofText, Cursor.lastNumber, hlast]
      rfl
  | some l =>
    have hnumber : (Cursor.ofText text).lastNumber = l.number := by
      rw [Cursor.ofText, Cursor.lastNumber, hlast]
      rfl
    have hpositive : 0 < (keptLines text.toList).length := by
      cases hls : keptLines text.toList with
      | nil =>
        rw [hls] at hlast
        cases hlast
      | cons => exact Nat.succ_pos _
    rw [List.getLast?_eq_getElem?] at hlast
    refine .inr ⟨(keptLines text.toList).length - 1, ?_, ?_⟩
    · rw [← length_keptLines]
      omega
    · rw [hnumber]
      exact keptAt_of_getElem? hlast

theorem IsLast.bounds {text : List Char} {n : Nat} (h : IsLast text n) :
    1 ≤ n ∧ n ≤ (lines text).length := by
  rcases h with ⟨_, rfl⟩ | ⟨_, _, hkept⟩
  · exact ⟨Nat.le_refl 1, List.length_pos_iff.2 (lines_ne_nil text)⟩
  · exact hkept.number_le

/-- What is to be said of a fault in a text and the number it has. -/
structure Located (text : String) (fault : Fault) (n : Nat) : Prop where
  /-- The number is that of a line of the text. -/
  bounds : 1 ≤ n ∧ n ≤ (lines text.toList).length
  /-- The text can only end too soon with its last line that is not blank, one of the first two. -/
  ended : fault.message = "unexpected end of input" →
    (kept text.toList).length < 3 ∧ IsLast text.toList n
  /-- Any other fault is that of a line, and of each text that starts like this one up to it. -/
  blamed : fault.message ≠ "unexpected end of input" →
    (∃ place, KeptAt text.toList place n) ∧
      ∀ text' : String, (lines text'.toList).take n = (lines text.toList).take n →
        parse text' = .error (.format fault n)

theorem located_of_parse {text : String} {fault : Fault} {n : Nat}
    (h : parse text = .error (.format fault n)) : Located text fault n := by
  rw [parse_eq] at h
  rcases locates_readLines _ _ fault n h with ⟨rfl, rfl, hlength⟩ | ⟨hfault, hblame⟩
  · rw [length_keptLines] at hlength
    have hlast := isLast_lastNumber text
    exact ⟨hlast.bounds, fun _ => ⟨hlength, hlast⟩, fun hmessage => absurd rfl hmessage⟩
  · obtain ⟨before, l, after, hls, rfl, hlater⟩ := hblame
    have hkept : KeptAt text.toList before.length l.number :=
      keptAt_of_getElem? (by rw [hls, List.getElem?_append_right (Nat.le_refl _), Nat.sub_self]; rfl)
    refine ⟨hkept.number_le, fun hmessage => absurd (message_eq_end_iff.1 hmessage) hfault, ?_⟩
    intro _
    refine ⟨⟨_, hkept⟩, fun text' hsame => ?_⟩
    obtain ⟨after', hls'⟩ := keptLines_of_same_start hls hsame
    rw [parse_eq, hls']
    exact hlater _ after'

/-- The lines of a document up to the last item of its list. -/
def upToList (ls : List (List Char)) : List (List Char) :=
  ls.take 3 ++ (ls.drop 3).takeWhile (·.head? == some '-')

/-- What follows the list does not matter if it does not go on with it. -/
theorem reads_upToList {ls extra : List (List Char)} {r : Rack} (h : Reads ls r)
    (hextra : ∀ l ∈ extra.head?, l.head? ≠ some '-') : Reads (upToList ls ++ extra) r := by
  obtain ⟨caption, height, heading, rest, digits, rfl, hcaption, hname, hheight, hshort, hn, hheading,
    hdevices⟩ := h
  refine ⟨caption, height, heading, rest.takeWhile (·.head? == some '-') ++ extra, digits, rfl, hcaption,
    hname, hheight, hshort, hn, hheading, ?_⟩
  rwa [takeWhile_run (fun _ => mem_takeWhile) fun l hl => by simpa using hextra l hl]

theorem parse_extent :
    (∀ text fault n, parse text = .error (.format fault n) → Located text fault n) ∧
    ∀ (text text' : String) s extra, parse text = .ok s →
      kept text'.toList = upToList (kept text.toList) ++ extra →
      (∀ l ∈ extra.head?, l.head? ≠ some '-') → parse text' = .ok s := by
  constructor
  · intro text fault n h
    exact located_of_parse h
  · intro text text' s extra h hkept hextra
    obtain ⟨r, hs, hreads⟩ := parse_eq_ok_iff.1 h
    rw [parse_eq_ok_iff, hkept]
    exact ⟨r, hs, reads_upToList hreads hextra⟩

/-- A text whose second item has no label, and that would fail later too. -/
def unlabelled : String := "caption: A\r\n\nheight: 4\nitems:\n- ups: a\n- switch\n- ups[0]: b"

/-- The same text up to that item. -/
def unlabelledStart : String := "caption: A\n\rheight: 4\nitems:\n- ups: a\n- switch\nend"

/-- A list that ends before its text does. -/
def footed : String := "caption: A\nheight: 4\nitems:\n- ups: b\nend\n- ups: c"

theorem parse_extent_unlabelled :
    (parse unlabelled = .error (.format .noColon 6) ∧ Located unlabelled .noColon 6 ∧
      (lines unlabelledStart.toList).take 6 = (lines unlabelled.toList).take 6 ∧
      parse unlabelledStart = .error (.format .noColon 6)) ∧
    (parse "\ncaption: A\n" = .error (.format .endOfInput 2) ∧
      Located "\ncaption: A\n" .endOfInput 2) ∧
    (∃ s, parse footed = .ok s ∧
      parse "caption: A\nheight: 4\nitems:\n- ups: b\n(c)\n-" = .ok s) := by
  obtain ⟨hfault, hlist⟩ := parse_extent
  have hunlabelled : parse unlabelled = .error (.format .noColon 6) := by decide +kernel
  have hshort : parse "\ncaption: A\n" = .error (.format .endOfInput 2) := by decide +kernel
  have hstart : (lines unlabelledStart.toList).take 6 = (lines unlabelled.toList).take 6 := by
    decide +kernel
  have hlocated := hfault _ _ _ hunlabelled
  obtain ⟨s, hs⟩ : ∃ s, parse footed = .ok s := succeeds_of_isOk (by decide +kernel)
  refine ⟨⟨hunlabelled, hlocated, hstart, ?_⟩, ⟨hshort, hfault _ _ _ hshort⟩, s, hs, ?_⟩
  · exact (hlocated.blamed (by decide)).2 _ hstart
  · exact hlist footed _ s ["(c)".toList, ['-']] hs (by decide +kernel) (by decide)

end RackElevation.RackText
