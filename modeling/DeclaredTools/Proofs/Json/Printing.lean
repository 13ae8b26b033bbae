/-
  Which values have a JSON text: those in which every integer is short enough for a text and every
  map, at any depth, has keys that JSON has a place for (`isOk_render`). Layout and depth play no
  part. Sets are written as texts, so the keys of maps in them do not matter. What has a JSON text
  has the other texts too (`isWritable_of_hasJsonText`).
-/
import DeclaredTools.Json.Printer
import DeclaredTools.Proofs.Result

namespace DeclaredTools

/-! ## Texts -/

namespace Value

theorem isOk_writtenLiteral (v : Value) : v.writtenLiteral.isOk = v.isWritable := by
  unfold writtenLiteral
  cases v.isWritable <;> rfl

theorem isOk_written (v : Value) : v.written.isOk = v.isWritable := by
  unfold written
  cases v.isWritable <;> rfl

/-! ## Keys -/

/-- JSON has a place for the key: it is a text, or a number, a truth value or null that can be
written as one. -/
def isJsonKey : Value → Bool
  | .null | .bool _ | .float _ | .text _ => true
  | .int n => isShort n
  | _ => false

mutual

/-- The integers in a value are short, and the keys of all maps in it are keys that JSON has a
place for. -/
def hasJsonText : Value → Bool
  | .int n => isShort n
  | .list xs => haveJsonTexts xs
  | .tuple xs => haveJsonTexts xs
  | .set xs => areWritable xs
  | .map es => entriesHaveJsonTexts es
  | _ => true

def haveJsonTexts : List Value → Bool
  | [] => true
  | x :: xs => hasJsonText x && haveJsonTexts xs

def entriesHaveJsonTexts : List (Value × Value) → Bool
  | [] => true
  | (k, v) :: es => isJsonKey k && (hasJsonText v && entriesHaveJsonTexts es)

end

theorem haveJsonTexts_iff {xs : List Value} :
    haveJsonTexts xs = true ↔ ∀ x ∈ xs, x.hasJsonText = true := by
  induction xs with
  | nil => simp [haveJsonTexts]
  | cons x xs ih => rw [haveJsonTexts, Bool.and_eq_true, ih, List.forall_mem_cons]

theorem entriesHaveJsonTexts_iff {es : List (Value × Value)} :
    entriesHaveJsonTexts es = true ↔
      ∀ e ∈ es, e.1.isJsonKey = true ∧ e.2.hasJsonText = true := by
  induction es with
  | nil => simp [entriesHaveJsonTexts]
  | cons e es ih =>
    obtain ⟨k, v⟩ := e
    rw [entriesHaveJsonTexts, Bool.and_eq_true, Bool.and_eq_true, ih, List.forall_mem_cons,
      and_assoc]

theorem hasJsonText_ofFields {fields : List (String × Value)} :
    (ofFields fields).hasJsonText = true ↔ ∀ f ∈ fields, f.2.hasJsonText = true := by
  rw [ofFields, hasJsonText, entriesHaveJsonTexts_iff, List.forall_mem_map]
  exact forall₂_congr fun _ _ => and_iff_right rfl

theorem isWritable_of_isJsonKey {k : Value} (h : k.isJsonKey = true) : k.isWritable = true := by
  cases k with
  | int n => exact h
  | null | bool _ | float _ | text _ => rfl
  | _ => cases h

mutual

theorem isWritable_of_hasJsonText : (v : Value) → v.hasJsonText = true → v.isWritable = true
  | .list xs, h | .tuple xs, h => areWritable_of_haveJsonTexts xs h
  | .map es, h => areWritableEntries_of_entriesHaveJsonTexts es h
  | .int _, h | .set _, h => h
  | .null, _ | .bool _, _ | .float _, _ | .text _, _ | .bytes _, _ | .date _, _
  | .timestamp _, _ => rfl

theorem areWritable_of_haveJsonTexts : (xs : List Value) → haveJsonTexts xs = true →
    areWritable xs = true
  | [], _ => rfl
  | x :: xs, h => by
    obtain ⟨hx, hxs⟩ := Bool.and_eq_true_iff.1 h
    exact Bool.and_eq_true_iff.2
      ⟨isWritable_of_hasJsonText x hx, areWritable_of_haveJsonTexts xs hxs⟩

theorem areWritableEntries_of_entriesHaveJsonTexts : (es : List (Value × Value)) →
    entriesHaveJsonTexts es = true → areWritableEntries es = true
  | [], _ => rfl
  | (k, v) :: es, h => by
    obtain ⟨hk, hrest⟩ := Bool.and_eq_true_iff.1 h
    obtain ⟨hv, hes⟩ := Bool.and_eq_true_iff.1 hrest
    have hkey := isWritable_of_isJsonKey hk
    have hvalue := isWritable_of_hasJsonText v hv
    have hentries := areWritableEntries_of_entriesHaveJsonTexts es hes
    exact Bool.and_eq_true_iff.2 ⟨hkey, Bool.and_eq_true_iff.2 ⟨hvalue, hentries⟩⟩

end

end Value

/-! ## JSON text -/

namespace Json

open Result

theorem isOk_keyText (layout : Layout) (k : Value) : (keyText layout k).isOk = k.isJsonKey := by
  cases k with
  | int n => exact Value.isOk_writtenLiteral (.int n)
  | _ => rfl

mutual

/-- A value has a JSON text if its integers are short and its keys have places in it. -/
theorem isOk_render (layout : Layout) (depth : Nat) :
    (v : Value) → (render layout depth v).isOk = v.hasJsonText
  | .list xs | .tuple xs => by
    rw [render, isOk_bind_pure, isOk_renderList layout (depth + 1) xs, Value.hasJsonText]
  | .map es => by
    rw [render, isOk_bind_pure, isOk_renderEntries layout (depth + 1) es, Value.hasJsonText]
  | .int n => Value.isOk_writtenLiteral (.int n)
  | .set xs => by
    rw [render, isOk_map, Value.isOk_written, Value.isWritable, Value.hasJsonText]
  | .null | .bool _ | .float _ | .text _ | .bytes _ | .date _ | .timestamp _ => rfl

theorem isOk_renderList (layout : Layout) (depth : Nat) :
    (xs : List Value) → (renderList layout depth xs).isOk = Value.haveJsonTexts xs
  | [] => rfl
  | x :: xs => by
    rw [renderList, isOk_bind_bind_pure, isOk_render layout depth x,
      isOk_renderList layout depth xs, Value.haveJsonTexts]

theorem isOk_renderEntries (layout : Layout) (depth : Nat) :
    (es : List (Value × Value)) →
      (renderEntries layout depth es).isOk = Value.entriesHaveJsonTexts es
  | [] => rfl
  | (k, v) :: es => by
    rw [renderEntries, Value.entriesHaveJsonTexts, ← isOk_keyText layout k,
      ← isOk_render layout depth v, ← isOk_renderEntries layout depth es]
    cases keyText layout k with
    | error e => rfl
    | ok key => exact isOk_bind_bind_pure _ _ _

end

end Json

end DeclaredTools
