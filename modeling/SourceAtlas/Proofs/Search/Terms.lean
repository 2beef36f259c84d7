import Mathlib.Data.List.TakeWhile
import SourceAtlas.Proofs.Text.Case
import SourceAtlas.Term

/-! Terms that are read as texts. A term in settled lower case is one run that is cut nowhere, so it is its
own only term. The terms of a text are of this kind if all of its letters can be put in lower case. -/
namespace SourceAtlas.Term

open Text

variable {p : Char → Bool} {cs : List Char}

theorem runs_of_all (some : cs ≠ []) (all : ∀ c ∈ cs, p c = true) : runs p cs = [cs] := by
  cases cs with
  | nil => exact absurd rfl some
  | cons first rest =>
    obtain ⟨inside, others⟩ := List.forall_mem_cons.mp all
    rw [runs, if_pos inside, List.takeWhile_eq_self_iff.mpr others,
      List.dropWhile_eq_nil_iff.mpr others, runs]

theorem of_mem_runs {run : List Char} (h : run ∈ runs p cs) :
    run ≠ [] ∧ ∀ c ∈ run, p c = true ∧ c ∈ cs := by
  induction cs using runs.induct p with
  | case1 =>
    rw [runs] at h
    cases h
  | case2 first rest inside ih =>
    rw [runs, if_pos inside] at h
    rcases List.mem_cons.mp h with rfl | h
    · refine ⟨List.cons_ne_nil _ _, List.forall_mem_cons.mpr ⟨⟨inside, List.mem_cons_self⟩, ?_⟩⟩
      intro c hc
      exact ⟨List.mem_takeWhile_imp hc,
        List.mem_cons_of_mem _ ((List.takeWhile_sublist p).subset hc)⟩
    · obtain ⟨some, each⟩ := ih h
      refine ⟨some, fun c hc => ⟨(each c hc).1, ?_⟩⟩
      exact List.mem_cons_of_mem _ ((List.dropWhile_sublist p).subset (each c hc).2)
  | case3 first rest outside ih =>
    rw [runs, if_neg outside] at h
    obtain ⟨some, each⟩ := ih h
    exact ⟨some, fun c hc => ⟨(each c hc).1, List.mem_cons_of_mem _ (each c hc).2⟩⟩

/-- A run is cut into pieces that are not empty, and nothing of it is lost. -/
theorem pieces_spec (cs : List Char) : (pieces cs).flatten = cs ∧ ∀ piece ∈ pieces cs, piece ≠ [] := by
  induction cs using pieces.induct with
  | case1 => exact ⟨rfl, fun _ h => nomatch h⟩
  | case2 c => exact ⟨rfl, by simp [pieces]⟩
  | case3 prev cur rest none ih => simp [none] at ih
  | case4 prev cur rest first more shape cut ih => simp_all [pieces]
  | case5 prev cur rest first more shape uncut ih => simp_all [pieces]

theorem pieces_of_small (some : cs ≠ []) (small : ∀ c ∈ cs, isUppercase c = false) :
    pieces cs = [cs] := by
  induction cs using pieces.induct with
  | case1 => exact absurd rfl some
  | case2 => rfl
  | case3 prev cur rest none ih =>
    simp [ih (List.cons_ne_nil _ _) (List.forall_mem_cons.mp small).2] at none
  | case4 prev cur rest first more shape cut ih =>
    have plain : isUppercase cur = false := small cur (by simp)
    simp [cutBefore, plain] at cut
  | case5 prev cur rest first more shape uncut ih =>
    have whole := ih (List.cons_ne_nil _ _) (List.forall_mem_cons.mp small).2
    rw [shape] at whole
    obtain ⟨rfl, rfl⟩ := List.cons.inj whole
    rw [pieces, shape]
    exact if_neg uncut

theorem tokenize_of_settled (some : cs ≠ []) (settled : ∀ c ∈ cs, Settled c) :
    tokenize (String.ofList cs) = [String.ofList cs] := by
  rw [tokenize, String.toList_ofList, ofChars, runs_of_all some fun c hc => (settled c hc).alphanumeric]
  simp [pieces_of_small some fun c hc => (settled c hc).small, lowercase, lowerFrom_of_settled settled]

/-- A term of a text is its own only term. -/
theorem tokenize_term (foldable : ∀ c ∈ cs, isAlphanumeric c = true → Foldable c) {term : String}
    (h : term ∈ ofChars cs) : tokenize term = [term] := by
  obtain ⟨run, hrun, hterm⟩ := List.mem_flatMap.mp h
  obtain ⟨piece, hpiece, rfl⟩ := List.mem_map.mp hterm
  obtain ⟨_, inside⟩ := of_mem_runs hrun
  obtain ⟨whole, full⟩ := pieces_spec run
  have each : ∀ c ∈ piece, isAlphanumeric c = true ∧ Foldable c := by
    intro c hc
    have member : c ∈ run := whole ▸ List.mem_flatten.mpr ⟨piece, hpiece, hc⟩
    obtain ⟨alphanumeric, known⟩ := inside c member
    exact ⟨alphanumeric, foldable c known alphanumeric⟩
  obtain ⟨length, settled⟩ := settled_of_lowerFrom [] each
  refine tokenize_of_settled ?_ settled
  intro empty
  rw [lowercase] at empty
  rw [empty] at length
  exact full piece hpiece (List.length_eq_zero_iff.mp length.symm)

end SourceAtlas.Term
