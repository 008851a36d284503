import Lmrs.Lib.Posix
import Lmrs.Lib.Text

/-!
# Paths and their texts

A path that was parsed holds no empty part, no dot and no slash within a part, and joining keeps that. The
text of such a path parses to it again (`RawPath.parse_text`).
-/

namespace Posix

open Python

namespace RawPath

/-- What a parsed path holds: no empty part, no dot, no slash. -/
def Clean (p : RawPath) : Prop := ∀ n ∈ p.parts, n ≠ "" ∧ n ≠ "." ∧ '/' ∉ n.toList

/-- A parsed path is clean. -/
theorem clean_parse (text : String) : (parse text).Clean := by
  intro n hn
  obtain ⟨part, hpart, rfl⟩ := List.mem_map.mp hn
  obtain ⟨hmem, hkept⟩ := List.mem_filter.mp hpart
  obtain ⟨hempty, hdot⟩ := of_decide_eq_true hkept
  refine ⟨?_, ?_, ?_⟩
  · simpa using hempty
  · intro heq
    apply hdot
    simpa using congrArg String.toList heq
  · rw [String.toList_ofList]
    exact not_mem_of_mem_splitOn hmem

/-- A join of clean paths is clean. -/
theorem Clean.join {p q : RawPath} (hp : p.Clean) (hq : q.Clean) : (p.join q).Clean := by
  unfold RawPath.join
  split_ifs
  · exact hq
  · intro n hn
    rcases List.mem_append.mp hn with hmem | hmem
    · exact hp n hmem
    · exact hq n hmem

/-- The path of an entry below a clean path is clean. -/
theorem Clean.child {p : RawPath} (hp : p.Clean) {n : String} (hn : IsName n) : (p.child n).Clean := by
  rw [← join_parse_name p hn]
  exact hp.join (clean_parse n)

/-- **The text of a clean path parses to it.** -/
theorem parse_text {p : RawPath} (h : p.Clean) : parse p.text = p := by
  obtain ⟨absolute, parts⟩ := p
  have hcs (n : String) (hn : n ∈ parts) : n.toList ≠ [] ∧ n.toList ≠ ['.'] ∧ '/' ∉ n.toList := by
    obtain ⟨hempty, hdot, hslash⟩ := h n hn
    refine ⟨by simpa using hempty, fun heq => hdot ?_, hslash⟩
    rw [← String.ofList_toList (s := n), heq]
  cases parts with
  | nil => cases absolute <;> decide
  | cons first rest =>
      -- the parts come out of the text they were written to, after an empty one when it starts with a slash
      have hsplit : splitOn '/' ("/".intercalate (first :: rest)).toList =
          (first :: rest).map String.toList := by
        rw [splitOn_eq, String.toList_intercalate]
        apply List.splitOn_intercalate
        · intro l hl
          obtain ⟨n, hn, rfl⟩ := List.mem_map.mp hl
          exact (hcs n hn).2.2
        · simp
      have hkept : ((first :: rest).map String.toList).filter (fun part => part ≠ [] ∧ part ≠ ['.']) =
          (first :: rest).map String.toList := by
        apply List.filter_eq_self.mpr
        intro l hl
        obtain ⟨n, hn, rfl⟩ := List.mem_map.mp hl
        simp [(hcs n hn).1, (hcs n hn).2.1]
      have hhead : ("/".intercalate (first :: rest)).toList.head? ≠ some '/' := by
        obtain ⟨c, cs, hfirst⟩ := List.exists_cons_of_ne_nil (hcs first (by simp)).1
        have hc : c ≠ '/' := by
          rintro rfl
          exact (hcs first (by simp)).2.2 (by simp [hfirst])
        rw [String.toList_intercalate]
        cases rest <;> simp [hfirst, hc]
      have hback : ((first :: rest).map String.toList).map String.ofList = first :: rest := by
        simp [Function.comp_def]
      unfold parse text
      rw [if_neg (by simp)]
      cases absolute with
      | false =>
          have hempty (t : String) : "" ++ t = t := by simp
          simp only [Bool.false_eq_true, if_false, hempty, hsplit, hkept, hback, hhead, decide_false]
      | true =>
          simp only [if_true, String.toList_append]
          have hslash : "/".toList = ['/'] := rfl
          rw [hslash, List.singleton_append, splitOn, if_pos rfl, hsplit,
            List.filter_cons_of_neg (by simp), hkept, hback]
          rfl

end RawPath

end Posix
