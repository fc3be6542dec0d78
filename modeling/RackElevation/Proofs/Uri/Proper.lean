import RackElevation.Proofs.Outcome
import RackElevation.Proofs.Text.Runs
import RackElevation.Uri.Join

/-
  Proper references

  Whether a reference can be cut into parts depends on its authority only: what
  stands between two slashes after the scheme and the next slash, question mark
  or number sign. Brackets in it have to stand around a host that is an address,
  and none of its characters may be mistaken for a delimiter.

  What is proved:
    1. `succeeds_split` — a reference can be cut exactly if it is proper.
    2. `succeeds_scheme`, `succeeds_resolve` — it can be read for its scheme, and
       seen from a base, exactly if the references that are cut are proper.
-/

namespace RackElevation

open Outcome

namespace Uri

open Text

/-- The authority of a reference. -/
def authorityOf (s : List Char) : List Char := (takeAuthority (takeScheme (clean s)).2).1

/-- A host that may stand in brackets. -/
def ProperHost (host : List Char) : Prop :=
  if host.head? = some 'v' then isFutureAddress host = true
  else isIPv4 host = false ∧ isIPv6 host = true

/-- Brackets around a host, which starts after the user; only a port may follow. Without an opening
bracket there, the host ends before the port. -/
def ProperBrackets (hostAndPort : List Char) : Prop :=
  ('[' ∉ hostAndPort ∧ ProperHost (cut ':' hostAndPort).1) ∨
  ∃ bracketed, hostAndPort = '[' :: bracketed ∧ ProperHost (cut ']' bracketed).1 ∧
    ∀ after ∈ (cut ']' bracketed).2, after = [] ∨ ∃ port, after = ':' :: port

/-- A reference whose authority is in order. -/
structure Proper (s : List Char) : Prop where
  /-- Brackets come in both kinds or not at all. -/
  paired : '[' ∈ authorityOf s ↔ ']' ∈ authorityOf s
  /-- Brackets stand around a host. -/
  brackets : '[' ∈ authorityOf s → ProperBrackets (cutLast '@' (authorityOf s)).2
  /-- No character stands for a delimiter. -/
  plain : ∀ c ∈ authorityOf s, c.toNat ∉ delimiterLookalikes

/-! ## Authorities -/

theorem succeeds_checkBracketed {host : List Char} :
    Succeeds (checkBracketed host) ↔ ProperHost host := by
  unfold checkBracketed ProperHost
  by_cases hv : host.head? = some 'v'
  · by_cases hf : isFutureAddress host = true <;> simp [hv, hf, succeeds_ok, not_succeeds_error]
  · by_cases h4 : isIPv4 host = true <;> by_cases h6 : isIPv6 host = true <;>
      simp [hv, h4, h6, succeeds_ok, not_succeeds_error]

theorem succeeds_after {after host : List Char} :
    Succeeds (if (!after.isEmpty && after.head? != some ':') = true then .error .brackets
      else checkBracketed host) ↔
      ProperHost host ∧ (after = [] ∨ ∃ port, after = ':' :: port) := by
  rcases after with _ | ⟨c, port⟩
  · simp [succeeds_checkBracketed]
  · by_cases hc : c = ':' <;> simp [hc, succeeds_checkBracketed, not_succeeds_error]

theorem succeeds_checkBrackets {authority : List Char} :
    Succeeds (checkBrackets authority) ↔ ProperBrackets (cutLast '@' authority).2 := by
  unfold checkBrackets ProperBrackets
  dsimp only
  generalize (cutLast '@' authority).2 = hostAndPort
  rcases cut_cases '[' hostAndPort with ⟨hno, hcut⟩ | ⟨before, bracketed, rfl, hbefore, hcut⟩
  · rw [hcut]
    dsimp only
    rw [succeeds_checkBracketed]
    refine ⟨fun h => .inl ⟨hno, h⟩, ?_⟩
    intro h
    rcases h with ⟨_, h⟩ | ⟨bracketed, rfl, _⟩
    · exact h
    · exact absurd List.mem_cons_self hno
  · rw [hcut]
    dsimp only
    have hmem : '[' ∈ before ++ '[' :: bracketed := by simp
    -- something before the opening bracket is refused, whatever the brackets hold
    rcases before with _ | ⟨b, before⟩
    · have hafter : (∀ after ∈ (cut ']' bracketed).2, after = [] ∨ ∃ port, after = ':' :: port) ↔
          ((cut ']' bracketed).2.getD [] = [] ∨ ∃ port, (cut ']' bracketed).2.getD [] = ':' :: port) := by
        cases (cut ']' bracketed).2 <;> simp
      rw [List.isEmpty_nil, if_neg (by decide), succeeds_after, ← hafter]
      refine ⟨fun h => .inr ⟨bracketed, rfl, h⟩, ?_⟩
      intro h
      rcases h with ⟨hno, _⟩ | ⟨_, hb, h⟩
      · exact absurd hmem hno
      · cases hb
        exact h
    · rw [List.isEmpty_cons, if_pos (by decide)]
      refine ⟨fun h => absurd h (not_succeeds_error _), ?_⟩
      intro h
      rcases h with ⟨hno, _⟩ | ⟨_, hb, _⟩
      · exact absurd hmem hno
      · cases hb
        exact absurd List.mem_cons_self hbefore

theorem succeeds_checkAuthority {authority : List Char} :
    Succeeds (checkAuthority authority) ↔
      ('[' ∈ authority ↔ ']' ∈ authority) ∧
      ('[' ∈ authority → ProperBrackets (cutLast '@' authority).2) := by
  unfold checkAuthority
  by_cases ho : '[' ∈ authority <;> by_cases hc : ']' ∈ authority <;>
    simp [ho, hc, succeeds_checkBrackets, succeeds_ok, not_succeeds_error]

theorem succeeds_checkLookalikes {authority : List Char} :
    Succeeds (checkLookalikes authority) ↔ ∀ c ∈ authority, c.toNat ∉ delimiterLookalikes := by
  unfold checkLookalikes
  split
  case isTrue h =>
    simp only [not_succeeds_error, false_iff]
    simpa using h
  case isFalse h =>
    simp only [succeeds_ok, true_iff]
    simpa using h

/-! ## References -/

theorem succeeds_splitWhole {outer s : List Char} : Succeeds (splitWhole outer s) ↔ Proper s := by
  have hchecks : Succeeds (splitWhole outer s) ↔
      Succeeds (checkAuthority (authorityOf s)) ∧ Succeeds (checkLookalikes (authorityOf s)) := by
    refine succeeds_bind_of_forall fun _ _ => ?_
    exact succeeds_bind_pure
  rw [hchecks, succeeds_checkAuthority, succeeds_checkLookalikes]
  refine ⟨fun h => ⟨h.1.1, h.1.2, h.2⟩, fun h => ⟨⟨h.paired, h.brackets⟩, h.plain⟩⟩

theorem succeeds_split {outer s : List Char} : Succeeds (split outer s) ↔ Proper s := by
  rw [split, succeeds_map, succeeds_splitWhole]

theorem scheme_of_splitWhole {outer s : List Char} {p : Parts} (h : splitWhole outer s = .ok p) :
    p.scheme = if (takeScheme (clean s)).1.isEmpty then outer else (takeScheme (clean s)).1 := by
  obtain ⟨_, _, h⟩ := bind_eq_ok.1 h
  obtain ⟨_, _, h⟩ := bind_eq_ok.1 h
  have hp := Except.ok.inj h
  subst hp
  rfl

theorem scheme_of_split {outer s : List Char} {p : Parts} (h : split outer s = .ok p) :
    p.scheme = if (takeScheme (clean s)).1.isEmpty then outer else (takeScheme (clean s)).1 := by
  obtain ⟨q, hq, rfl⟩ := map_eq_ok.1 h
  rw [← scheme_of_splitWhole hq]
  split <;> rfl

theorem eq_of_scheme {s v : List Char} (h : scheme s = .ok v) : v = (takeScheme (clean s)).1 := by
  obtain ⟨p, hp, rfl⟩ := map_eq_ok.1 h
  rw [scheme_of_split hp]
  cases (takeScheme (clean s)).1 <;> rfl

theorem succeeds_scheme {s : List Char} : Succeeds (scheme s) ↔ Proper s := by
  rw [scheme, succeeds_map, succeeds_split]

theorem succeeds_resolve {base ref : List Char} (hbase : base ≠ []) (href : ref ≠ []) :
    Succeeds (resolve base ref) ↔ Proper base ∧ Proper ref := by
  have hb : ¬base.isEmpty = true := by simpa using hbase
  have hr : ¬ref.isEmpty = true := by simpa using href
  -- both references are cut before they are joined, and joining cannot fail
  unfold resolve
  rw [if_neg hb, if_neg hr]
  rw [show Proper base ↔ Succeeds (split [] base) from succeeds_split.symm]
  refine succeeds_bind_of_forall fun b _ => ?_
  rw [succeeds_bind_of_forall (p := True), and_true, succeeds_split]
  intro r _
  refine iff_true_intro ?_
  split
  · exact succeeds_pure _
  split
  · split <;> exact succeeds_pure _
  · exact succeeds_pure _

end Uri

end RackElevation
