/-
  What is read as JSON is a JSON value: null, a truth value, a number, a text, or a list or map of
  such values, a map with texts as its keys. Its integers are short enough for a text, for no other
  is made of digits (`isReadable_of_readBody`). Values, members and elements are read in turn, each
  with less fuel. So the arguments in the body of a call are JSON as well.
-/
import DeclaredTools.Http.Body
import DeclaredTools.Proofs.Json.Printing
import DeclaredTools.Proofs.Result
import DeclaredTools.Proofs.Schema.Conformance

namespace DeclaredTools

namespace Value

/-- JSON whose integers all have a text. -/
def isReadable (v : Value) : Bool := v.isJson && v.isWritable

def areReadable (xs : List Value) : Bool := areJson xs && areWritable xs

def areReadableEntries (es : List (Value × Value)) : Bool :=
  areJsonEntries es && areWritableEntries es

theorem areReadable_cons_iff {x : Value} {xs : List Value} :
    areReadable (x :: xs) = true ↔ x.isReadable = true ∧ areReadable xs = true := by
  simp only [areReadable, isReadable, areJson, areWritable, Bool.and_eq_true]
  tauto

theorem areReadableEntries_cons_iff {k v : Value} {es : List (Value × Value)} :
    areReadableEntries ((k, v) :: es) = true ↔
      (∃ s, k = .text s) ∧ v.isReadable = true ∧ areReadableEntries es = true := by
  rw [areReadableEntries, areWritableEntries, Bool.and_eq_true, areJsonEntries_cons_iff]
  simp only [areReadableEntries, isReadable, Bool.and_eq_true]
  constructor
  · rintro ⟨⟨hk, hv, hes⟩, -, hshort, hrest⟩
    exact ⟨hk, ⟨hv, hshort⟩, hes, hrest⟩
  · rintro ⟨⟨s, rfl⟩, ⟨hv, hshort⟩, hes, hrest⟩
    exact ⟨⟨⟨s, rfl⟩, hv, hes⟩, rfl, hshort, hrest⟩

theorem areReadableEntries_insertEntry {es : List (Value × Value)}
    (h : areReadableEntries es = true) (name : String) {v : Value} (hv : v.isReadable = true) :
    areReadableEntries (insertEntry (.text name) v es) = true := by
  induction es with
  | nil => exact areReadableEntries_cons_iff.2 ⟨⟨name, rfl⟩, hv, rfl⟩
  | cons e es ih =>
    obtain ⟨k, w⟩ := e
    obtain ⟨hk, hw, hes⟩ := areReadableEntries_cons_iff.1 h
    rw [insertEntry]
    split
    · exact areReadableEntries_cons_iff.2 ⟨hk, hv, hes⟩
    · exact areReadableEntries_cons_iff.2 ⟨hk, hw, ih hes⟩

theorem isReadable_of_lookup_eq_some {name : String} {v : Value} {es : List (Value × Value)}
    (h : areReadableEntries es = true) (hv : lookup name es = some v) : v.isReadable = true := by
  induction es with
  | nil => cases hv
  | cons e es ih =>
    obtain ⟨k, w⟩ := e
    obtain ⟨-, hw, hes⟩ := areReadableEntries_cons_iff.1 h
    rw [lookup] at hv
    split at hv
    · exact Option.some.inj hv ▸ hw
    · exact ih hes hv

end Value

namespace Json

open Value Result

theorem isReadable_of_readWord {cs : List Char} {answer : Value × List Char}
    (h : readWord cs = some answer) : answer.1.isReadable = true := by
  obtain ⟨⟨word, w⟩, hmem, hword⟩ := List.exists_of_findSome?_eq_some h
  have hall : ∀ e ∈ words, e.2.isReadable = true := by decide
  dsimp only at hword
  split at hword
  · rw [← Option.some.inj hword]
    exact hall _ hmem
  · cases hword

/-! ## Numbers -/

theorem isDigit_of_mem_wholeDigits {cs : List Char} :
    ∀ c ∈ wholeDigits cs, c.isDigit = true := by
  unfold wholeDigits
  split
  · exact List.forall_mem_singleton.2 rfl
  · exact List.all_eq_true.1 List.all_takeWhile

/-- A number has no more digits than it is read from. -/
theorem length_toDigits_numberOf_le {digits : List Char} (h : ∀ c ∈ digits, c.isDigit = true)
    {n : Nat} (hn : 0 < n) (hlength : digits.length ≤ n) :
    (Nat.toDigits 10 (numberOf digits)).length ≤ n := by
  have hfold : ∀ start, digits.foldl (fun n c => n * 10 + (c.toNat - '0'.toNat)) start <
      (start + 1) * 10 ^ digits.length := by
    clear hlength
    induction digits with
    | nil => simp
    | cons c digits ih =>
      intro start
      obtain ⟨hc, hdigits⟩ := List.forall_mem_cons.1 h
      have hvalue : c.toNat - '0'.toNat < 10 := by
        have hnine : c.toNat ≤ '9'.toNat := (Char.isDigit_iff_toNat.1 hc).2
        have hzero : '0'.toNat = 48 := rfl
        have hnine' : '9'.toNat = 57 := rfl
        omega
      calc digits.foldl _ (start * 10 + (c.toNat - '0'.toNat))
          < (start * 10 + (c.toNat - '0'.toNat) + 1) * 10 ^ digits.length := ih hdigits _
        _ ≤ ((start + 1) * 10) * 10 ^ digits.length := Nat.mul_le_mul_right _ (by omega)
        _ = (start + 1) * 10 ^ (digits.length + 1) := by rw [Nat.mul_assoc, ← Nat.pow_succ']
  have hbelow : numberOf digits < 10 ^ digits.length := by simpa [numberOf] using hfold 0
  have hpower : 10 ^ digits.length ≤ 10 ^ n := Nat.pow_le_pow_right (by decide) hlength
  exact (Nat.length_toDigits_le_iff (by decide) hn).2 (Nat.lt_of_lt_of_le hbelow hpower)

theorem isReadable_of_digits (negative : Bool) {cs : List Char}
    (h : ¬ Text.digitLimit < (wholeDigits cs).length) :
    (Value.int (signed negative (numberOf (wholeDigits cs)))).isReadable = true := by
  have hsize : (signed negative (numberOf (wholeDigits cs))).natAbs =
      numberOf (wholeDigits cs) := by
    cases negative <;> simp [signed]
  show isShort (signed negative (numberOf (wholeDigits cs))) = true
  rw [isShort, decide_eq_true_iff, hsize]
  exact length_toDigits_numberOf_le isDigit_of_mem_wholeDigits (by decide) (Nat.not_lt.1 h)

theorem isReadable_of_readNumber {start : List Char} {answer : Value × List Char}
    (h : readNumber start = .ok answer) : answer.1.isReadable = true := by
  unfold readNumber at h
  dsimp only at h
  -- whatever sign and digits are read, the number is a short integer or a float
  repeat' split at h
  all_goals cases h
  all_goals first
    | exact isReadable_of_digits _ ‹_›
    | rfl

/-- With some fuel only JSON is read. -/
structure ReadsJson (fuel : Nat) : Prop where
  value : ∀ {cs answer}, readValue fuel cs = .ok answer → answer.1.isReadable = true
  members : ∀ {es cs answer}, areReadableEntries es = true → readMembers fuel es cs = .ok answer →
    areReadableEntries answer.1 = true
  elements : ∀ {cs answer}, readElements fuel cs = .ok answer → areReadable answer.1 = true

section

variable {fuel : Nat} (ih : ReadsJson fuel) {cs : List Char}

include ih

theorem isReadable_of_readValue {answer : Value × List Char}
    (h : readValue (fuel + 1) cs = .ok answer) : answer.1.isReadable = true := by
  cases cs with
  | nil => cases h
  | cons c cs =>
    rw [readValue] at h
    split at h
    · obtain ⟨⟨s, rest⟩, _, h⟩ := bind_eq_ok h
      rw [← Except.ok.inj h]
      rfl
    · split at h
      · dsimp only at h
        split at h
        · rw [← Except.ok.inj h]
          rfl
        · obtain ⟨⟨es, rest⟩, hes, h⟩ := bind_eq_ok h
          rw [← Except.ok.inj h]
          exact ih.members rfl hes
      · split at h
        · dsimp only at h
          split at h
          · rw [← Except.ok.inj h]
            rfl
          · obtain ⟨⟨xs, rest⟩, hxs, h⟩ := bind_eq_ok h
            rw [← Except.ok.inj h]
            exact ih.elements hxs
        · split at h
          · next hword =>
            rw [← Except.ok.inj h]
            exact isReadable_of_readWord hword
          · exact isReadable_of_readNumber h

theorem areReadableEntries_of_readMembers {es : List (Value × Value)}
    {answer : List (Value × Value) × List Char} (hes : areReadableEntries es = true)
    (h : readMembers (fuel + 1) es cs = .ok answer) : areReadableEntries answer.1 = true := by
  rw [readMembers] at h
  split at h
  · cases h
  · obtain ⟨⟨name, rest⟩, _, h⟩ := bind_eq_ok h
    dsimp only at h
    split at h
    · cases h
    · obtain ⟨⟨v, rest⟩, hv, h⟩ := bind_eq_ok h
      have hinserted := areReadableEntries_insertEntry hes name (ih.value hv)
      dsimp only at h
      split at h
      · rw [← Except.ok.inj h]
        exact hinserted
      · exact ih.members hinserted h
      · cases h

theorem areReadable_of_readElements {answer : List Value × List Char}
    (h : readElements (fuel + 1) cs = .ok answer) : areReadable answer.1 = true := by
  rw [readElements] at h
  obtain ⟨⟨v, rest⟩, hv, h⟩ := bind_eq_ok h
  have hfirst := ih.value hv
  dsimp only at h
  split at h
  · rw [← Except.ok.inj h]
    exact areReadable_cons_iff.2 ⟨hfirst, rfl⟩
  · obtain ⟨⟨vs, rest⟩, hvs, h⟩ := bind_eq_ok h
    rw [← Except.ok.inj h]
    exact areReadable_cons_iff.2 ⟨hfirst, ih.elements hvs⟩
  · cases h

end

/-- Whatever the fuel, each of the readers hands its rest to the others with less of it. -/
theorem readsJson (fuel : Nat) : ReadsJson fuel := by
  induction fuel with
  | zero =>
    constructor
    · intro cs answer h
      cases h
    · intro es cs answer _ h
      cases h
    · intro cs answer h
      cases h
  | succ fuel ih =>
    exact ⟨isReadable_of_readValue ih, areReadableEntries_of_readMembers ih,
      areReadable_of_readElements ih⟩

theorem isReadable_of_readChars {cs : List Char} {v : Value} (h : readChars cs = .ok v) :
    v.isReadable = true := by
  unfold readChars at h
  dsimp only at h
  split at h
  · cases h
  · next w rest hread =>
    split at h
    · rw [← Except.ok.inj h]
      exact (readsJson _).value hread
    · cases h

theorem isReadable_of_readBody {s : String} {v : Value} (h : readBody s = .ok v) :
    v.isReadable = true := by
  unfold readBody at h
  split at h
  · exact isReadable_of_readChars h
  · exact isReadable_of_readChars h

end Json

namespace Http

/-- The arguments that a body holds are JSON. -/
theorem areReadableEntries_of_argumentsOf {body : Option String} {arguments : Arguments}
    (h : (readBody body).bind argumentsOf = .ok arguments) :
    Value.areReadableEntries arguments = true := by
  obtain ⟨v, hv, harguments⟩ := Result.bind_eq_ok h
  have hjson : v.isReadable = true := by
    unfold readBody at hv
    split at hv
    · rw [← Except.ok.inj hv]
      rfl
    · split at hv
      · rw [← Except.ok.inj hv]
        rfl
      · split at hv
        · next w hread =>
          rw [← Except.ok.inj hv]
          exact Json.isReadable_of_readBody hread
        · cases hv
  cases v with
  | map es =>
    rw [argumentsOf] at harguments
    split at harguments
    · rw [← Except.ok.inj harguments]
      rfl
    · next given hgiven =>
      rw [← Except.ok.inj harguments]
      exact Value.isReadable_of_lookup_eq_some hjson hgiven
    · cases harguments
  | _ => cases harguments

end Http

end DeclaredTools
