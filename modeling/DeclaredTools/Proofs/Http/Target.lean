/-
  Targets that lead to a tool. The name of a tool stands in a path as one segment, with the octets
  of all characters that are reserved behind percent signs. These are resolved once on the way, so
  the service receives the path with the name itself in it, whatever the name (`received_escaped`).
-/
import DeclaredTools.Http.Target
import DeclaredTools.Proofs.Text.Pieces
import DeclaredTools.Proofs.Text.Utf8
import Mathlib.Data.List.TakeWhile

namespace DeclaredTools.Http

open Text.Utf8

/-! ## Segments -/

theorem pieces_intercalate {names : List String} (hne : names ≠ [])
    (h : ∀ name ∈ names, '/' ∉ name.toList) :
    (Text.splitOn '/' ("/".intercalate names).toList).map String.ofList = names := by
  have hpieces : ∀ cs ∈ names.map String.toList, '/' ∉ cs := by
    intro cs hcs
    obtain ⟨name, hname, rfl⟩ := List.mem_map.1 hcs
    exact h name hname
  rw [String.toList_intercalate, Text.splitOn_eq]
  show (List.splitOn '/' (['/'].intercalate (names.map String.toList))).map String.ofList = names
  rw [List.splitOn_intercalate '/' hpieces (mt List.map_eq_nil_iff.1 hne), List.map_map]
  exact (List.map_congr_left fun name _ => String.ofList_toList).trans (List.map_id names)

/-! ## Percent signs -/

/-- The sixteen digits, with capital letters. -/
def hexDigit (n : Nat) : Char := Char.ofNat (if n < 10 then 48 + n else 55 + n)

/-- An octet behind a percent sign. -/
def percentCode (b : UInt8) : List Char :=
  ['%', hexDigit (b.toNat / 16), hexDigit (b.toNat % 16)]

/-- Letters, digits and four marks, which need no percent sign. -/
def isUnreserved (c : Char) : Bool := c.isAlphanum || c = '-' || c = '.' || c = '_' || c = '~'

def escapedChar (c : Char) : List Char :=
  if isUnreserved c then [c] else (encoded [c]).flatMap percentCode

/-- A text with percent signs in front of the octets of reserved characters. -/
def escaped (s : String) : String := String.ofList (s.toList.flatMap escapedChar)

theorem hexDigit?_hexDigit {n : Nat} (h : n < 16) : Json.hexDigit? (hexDigit n) = some n := by
  have hall : ∀ m < 16, Json.hexDigit? (hexDigit m) = some m := by decide
  exact hall n h

theorem octets_percentCode (b : UInt8) (cs : List Char) :
    octets (percentCode b ++ cs) = b :: octets cs := by
  have hb : b.toNat < 256 := b.toNat_lt
  have hvalue : b.toNat / 16 * 16 + b.toNat % 16 = b.toNat := by omega
  show octets ('%' :: hexDigit (b.toNat / 16) :: hexDigit (b.toNat % 16) :: cs) = _
  rw [octets, hexDigit?_hexDigit (by omega), hexDigit?_hexDigit (by omega)]
  dsimp only
  rw [hvalue, UInt8.ofNat_toNat]

theorem octets_percentCodes (bs : List UInt8) (cs : List Char) :
    octets (bs.flatMap percentCode ++ cs) = bs ++ octets cs := by
  induction bs with
  | nil => rfl
  | cons b bs ih =>
    rw [List.flatMap_cons, List.append_assoc, octets_percentCode, ih, List.cons_append]

/-- Without a percent sign a character stands for itself. -/
theorem octets_append {cs : List Char} (h : '%' ∉ cs) (rest : List Char) :
    octets (cs ++ rest) = encoded cs ++ octets rest := by
  induction cs with
  | nil => rfl
  | cons c cs ih =>
    obtain ⟨hc, hcs⟩ := not_or.1 (mt List.mem_cons.2 h)
    have hstep : octets (c :: (cs ++ rest)) = c.toString.toUTF8.toList ++ octets (cs ++ rest) := by
      rw [octets]
      intro a b more heq
      exact absurd heq (Ne.symm hc)
    rw [List.cons_append, hstep, toUTF8_toString, ih hcs, ← List.append_assoc]
    exact congrArg (· ++ octets rest) List.flatMap_append.symm

theorem octets_eq_encoded {cs : List Char} (h : '%' ∉ cs) : octets cs = encoded cs := by
  have happend := octets_append h []
  rw [List.append_nil, octets, List.append_nil] at happend
  exact happend

/-! ## Names behind percent signs -/

theorem octets_escapedChar (c : Char) (rest : List Char) :
    octets (escapedChar c ++ rest) = encoded [c] ++ octets rest := by
  unfold escapedChar
  split
  · next h =>
    refine octets_append (fun hmem => ?_) rest
    rw [← List.mem_singleton.1 hmem] at h
    cases h
  · exact octets_percentCodes _ rest

theorem octets_escapedChars (cs rest : List Char) :
    octets (cs.flatMap escapedChar ++ rest) = encoded cs ++ octets rest := by
  induction cs with
  | nil => rfl
  | cons c cs ih =>
    rw [List.flatMap_cons, List.append_assoc, octets_escapedChar, ih, ← List.append_assoc]
    congr 1
    exact List.flatMap_append.symm

/-- A name behind percent signs is read back, between texts without percent signs. -/
theorem unescape_between (before s behind : String) (hbefore : '%' ∉ before.toList)
    (hbehind : '%' ∉ behind.toList) :
    unescape (before ++ escaped s ++ behind) = before ++ s ++ behind := by
  have hoctets : octets (before ++ escaped s ++ behind).toList =
      encoded before.toList ++ (encoded s.toList ++ encoded behind.toList) := by
    rw [String.toList_append, String.toList_append, escaped, String.toList_ofList,
      List.append_assoc, octets_append hbefore, octets_escapedChars, octets_eq_encoded hbehind]
  apply String.toList_inj.1
  rw [unescape, decodeLenient, String.toList_ofList, hoctets, lenientChars_append,
    lenientChars_append, lenientChars_encoded, String.toList_append, String.toList_append,
    List.append_assoc]

theorem mem_percentCode {b : UInt8} {c : Char} (h : c ∈ percentCode b) :
    c = '%' ∨ ∃ n < 16, c = hexDigit n := by
  have hb : b.toNat < 256 := b.toNat_lt
  rcases List.mem_cons.1 h with rfl | h
  · exact Or.inl rfl
  · rcases List.mem_cons.1 h with rfl | h
    · exact Or.inr ⟨b.toNat / 16, by omega, rfl⟩
    · exact Or.inr ⟨b.toNat % 16, by omega, List.mem_singleton.1 h⟩

/-- No query starts in a name behind percent signs. -/
theorem ne_of_mem_escaped {s : String} {c : Char} (h : c ∈ (escaped s).toList) : c ≠ '?' := by
  have hdigits : ∀ n < 16, hexDigit n ≠ '?' := by decide
  rw [escaped, String.toList_ofList] at h
  obtain ⟨d, _, hc⟩ := List.mem_flatMap.1 h
  unfold escapedChar at hc
  split at hc
  · next hunreserved =>
    rintro rfl
    rw [← List.mem_singleton.1 hc] at hunreserved
    cases hunreserved
  · obtain ⟨b, _, hb⟩ := List.mem_flatMap.1 hc
    rcases mem_percentCode hb with rfl | ⟨n, hn, rfl⟩
    · decide
    · exact hdigits n hn

/-! ## Paths of tools -/

def toolPath (name : String) : String := "/api/v1/tools/" ++ name

def callPath (name : String) : String := toolPath name ++ "/call"

/-- What may stand behind the path of a tool: nothing, or the segment that calls it. -/
structure Continues (tail : String) (segments : List String) : Prop where
  path : ∀ name, toolPath name ++ tail =
    "/".intercalate ("" :: "api" :: "v1" :: "tools" :: name :: segments)
  fixed : ∀ word ∈ segments, word = "call"
  whole : ∀ c ∈ tail.toList, c ≠ '%' ∧ c ≠ '?'

theorem continues_nil : Continues "" [] where
  path name := by
    apply String.toList_inj.1
    simp [toolPath]
  fixed word h := nomatch h
  whole := by simp

theorem continues_call : Continues "/call" ["call"] where
  path name := by
    apply String.toList_inj.1
    simp [toolPath]
  fixed word := List.mem_singleton.1
  whole := by simp

theorem received_toolPath_escaped {tail : String} {segments : List String}
    (h : Continues tail segments) (s : String) :
    received (toolPath (escaped s) ++ tail) = toolPath s ++ tail := by
  have hfixed : ∀ c ∈ "/api/v1/tools/".toList, c ≠ '?' := by simp
  have hquery : ∀ c ∈ (toolPath (escaped s) ++ tail).toList, c ≠ '?' := by
    intro c hc
    rw [toolPath, String.toList_append, String.toList_append, List.mem_append,
      List.mem_append] at hc
    rcases hc with (hc | hc) | hc
    · exact hfixed c hc
    · exact ne_of_mem_escaped hc
    · exact (h.whole c hc).2
  have htake : (toolPath (escaped s) ++ tail).toList.takeWhile (· ≠ '?') =
      (toolPath (escaped s) ++ tail).toList :=
    List.takeWhile_eq_self_iff.2 fun c hc => decide_eq_true (hquery c hc)
  rw [received, htake, String.ofList_toList]
  exact unescape_between "/api/v1/tools/" s tail (by decide) fun hmem => (h.whole _ hmem).1 rfl

/-- Whatever the name of a tool, put behind percent signs it is received as it is. -/
theorem received_escaped (name : String) :
    received (toolPath (escaped name)) = toolPath name ∧
      received (callPath (escaped name)) = callPath name := by
  have htool := received_toolPath_escaped continues_nil name
  rw [String.append_empty, String.append_empty] at htool
  exact ⟨htool, received_toolPath_escaped continues_call name⟩

end DeclaredTools.Http
