import SourceAtlas.Proofs.Build.Failure
import SourceAtlas.Proofs.Search.Partition
import SourceAtlas.Proofs.Search.Ranking

/-! What the words of a stored snapshot can hold. Its version and its counts are read as they stand, so a
search goes down if the counts of a node add up to more than a word, and a build on top of the last
version does. Nothing else is possible: no sum starts over at nought. One text decides whether any search
can go down, since it has every stored term that any text has. -/
namespace SourceAtlas

namespace Term

/-- Of any terms, one text has all that some text has. -/
theorem exists_widest (keys : List String) :
    ∃ text, ∀ other, ∀ key ∈ keys, key ∈ tokenize other → key ∈ tokenize text := by
  induction keys with
  | nil => exact ⟨"", fun _ _ none => absurd none List.not_mem_nil⟩
  | cons key rest ih =>
    obtain ⟨text, widest⟩ := ih
    by_cases searchable : ∃ other, key ∈ tokenize other
    · obtain ⟨own, has⟩ := searchable
      have both := tokenize_between own text (c := ' ') (by decide +kernel)
      refine ⟨own ++ String.singleton ' ' ++ text, ?_⟩
      intro other term known ht
      rw [both, List.mem_append]
      rcases List.mem_cons.mp known with rfl | known
      · exact .inl has
      · exact .inr (widest other term known ht)
    · refine ⟨text, ?_⟩
      intro other term known ht
      rcases List.mem_cons.mp known with rfl | known
      · exact absurd ⟨other, ht⟩ searchable
      · exact widest other term known ht

end Term

namespace Graph

/-- The text is answered with pages of one list, in which every node that has a term of it stands with the
sum of the counts of its terms there. -/
def SearchesExactly (g : Graph) (text : String) : Prop :=
  ∃ hits : List Hit,
    (∀ limit offset, 0 < limit → limit ≤ mostHits →
      g.search text limit offset = .ok ((hits.drop offset).take limit)) ∧
    ∀ hit, hit ∈ hits ↔ ∃ n ∈ g.nodes, n.HasSome (Term.tokenize text).toFinset ∧ hit.id = n.id ∧
      hit.score.toNat = n.score (Term.tokenize text).toFinset

namespace WellFormed

variable {g : Graph}

/-- A search is exact, or it goes down because the counts of some node add up to more than a word. -/
theorem search_cases (wf : g.WellFormed) (text : String) :
    (g.SearchesExactly text ∧ ∀ n ∈ g.nodes, n.score (Term.tokenize text).toFinset < 2 ^ 32) ∨
    (∀ limit offset, 0 < limit → limit ≤ mostHits → g.search text limit offset = .error .overflow) ∧
      ∃ n ∈ g.nodes, 2 ^ 32 ≤ n.score (Term.tokenize text).toFinset := by
  have sum : ∀ n : Node, (n.counts (Term.distinct text)).sum = n.score (Term.tokenize text).toFinset := by
    intro n
    rw [← Term.distinct_toFinset, Node.score_eq_counts (Term.distinct_nodup text)]
  rcases SearchIndex.found_cases wf.ids_distinct (Term.distinct text) with
    ⟨all, found, listed, small⟩ | ⟨failed, n, hn, large⟩
  · refine .inl ⟨⟨all.mergeSort (SearchIndex.ofNodes g.nodes).ranksBefore, ?_, ?_⟩, ?_⟩
    · intro limit offset positive fits
      have ranked : (SearchIndex.ofNodes g.nodes).ranking text =
          .ok (all.mergeSort (SearchIndex.ofNodes g.nodes).ranksBefore) := by
        rw [SearchIndex.ranking, found]
        rfl
      rw [search, SearchIndex.query_eq ranked, if_neg (Nat.ne_of_gt positive)]
      exact if_neg (Nat.not_lt.mpr fits)
    · intro hit
      simp only [(List.mergeSort_perm all _).mem_iff, listed.mem_iff, sum, ← Node.hasSome_iff_counts,
        Term.distinct_toFinset]
    · exact fun n hn => sum n ▸ small n hn
  · refine .inr ⟨?_, n, hn, sum n ▸ large⟩
    intro limit offset positive fits
    rw [search, SearchIndex.query, if_neg (Nat.ne_of_gt positive), if_neg (Nat.not_lt.mpr fits),
      SearchIndex.ranking, failed]
    rfl

theorem searchesExactly_iff (wf : g.WellFormed) {text : String} :
    g.SearchesExactly text ↔ ∀ n ∈ g.nodes, n.score (Term.tokenize text).toFinset < 2 ^ 32 := by
  rcases wf.search_cases text with ⟨exact, small⟩ | ⟨down, n, hn, large⟩
  · exact iff_of_true exact small
  · refine iff_of_false ?_ fun small => Nat.not_lt.mpr large (small n hn)
    rintro ⟨hits, pages, _⟩
    cases (down 1 0 (by decide) (by decide)).symm.trans (pages 1 0 (by decide) (by decide))

theorem search_overflow_iff (wf : g.WellFormed) {text : String} {limit : Nat} (offset : Nat)
    (positive : 0 < limit) (fits : limit ≤ mostHits) :
    g.search text limit offset = .error .overflow ↔
      ∃ n ∈ g.nodes, 2 ^ 32 ≤ n.score (Term.tokenize text).toFinset := by
  rcases wf.search_cases text with ⟨⟨hits, pages, _⟩, small⟩ | ⟨down, large⟩
  · refine iff_of_false ?_ ?_
    · rw [pages limit offset positive fits]
      exact nofun
    · rintro ⟨n, hn, large⟩
      exact Nat.not_lt.mpr large (small n hn)
  · exact iff_of_true (down limit offset positive fits) large

end WellFormed

/-- Of all texts, one has the highest score in every node. -/
theorem exists_widest (g : Graph) : ∃ text, ∀ n ∈ g.nodes, ∀ other,
    n.score (Term.tokenize other).toFinset ≤ n.score (Term.tokenize text).toFinset := by
  obtain ⟨text, widest⟩ := Term.exists_widest (g.nodes.flatMap fun n => n.tokens.keys)
  refine ⟨text, ?_⟩
  intro n hn other
  apply Node.score_le_of_keys
  intro term known ht
  rw [List.mem_toFinset] at ht ⊢
  exact widest other term (List.mem_flatMap.mpr ⟨n, hn, known⟩) ht

end Graph

/-- What is read back keeps its numbers, and sums of them are whole or are not made. A text is searched
exactly, unless its counts in some node add up to more than a word; then the search goes down. No text
fails if the widest does not. A build on top has the next version, unless there is none; then it goes
down, if nothing else stops it. -/
theorem loaded_numbers_stay_whole [Tools] {t : SourceTree} {s : Snapshot} (loaded : t.load = .ok (some s)) :
    (∀ text, s.graph.SearchesExactly text ↔
      ∀ n ∈ s.graph.nodes, n.score (Term.tokenize text).toFinset < 2 ^ 32) ∧
    (∀ text limit offset, 0 < limit → limit ≤ 1000 →
      (s.graph.search text limit offset = .error .overflow ↔
        ∃ n ∈ s.graph.nodes, 2 ^ 32 ≤ n.score (Term.tokenize text).toFinset)) ∧
    (∃ text, (∀ n ∈ s.graph.nodes, ∀ other,
        n.score (Term.tokenize other).toFinset ≤ n.score (Term.tokenize text).toFinset) ∧
      ((∀ other, s.graph.SearchesExactly other) ↔ s.graph.SearchesExactly text)) ∧
    ∀ (t' : SourceTree) (config : BuildConfig) (root : BuildRoot),
      (∀ next, t'.build config root (some s) = .ok next →
        next.version.toNat = s.version.toNat + 1 ∧ s.version < next.version) ∧
      ((∀ cause, ¬ t'.Unbuildable config root cause) →
        (t'.build config root (some s) = .error .overflow ↔ s.version.toNat = 2 ^ 64 - 1) ∧
        ((∃ next, t'.build config root (some s) = .ok next) ↔ s.version.toNat < 2 ^ 64 - 1)) := by
  have wf : s.graph.WellFormed := SourceTree.wellFormed_of_load loaded
  refine ⟨fun text => wf.searchesExactly_iff,
    fun text limit offset positive fits => wf.search_overflow_iff offset positive fits, ?_, ?_⟩
  · obtain ⟨text, widest⟩ := s.graph.exists_widest
    refine ⟨text, widest, fun all => all text, ?_⟩
    intro exact other
    rw [wf.searchesExactly_iff] at exact ⊢
    exact fun n hn => Nat.lt_of_le_of_lt (widest n hn other) (exact n hn)
  · intro t' config root
    have versions : ∀ next, t'.build config root (some s) = .ok next →
        next.version.toNat = s.version.toNat + 1 := fun next built =>
      nextVersion_eq_ok_iff.mp (SourceTree.version_of_build built)
    refine ⟨?_, ?_⟩
    · intro next built
      have version := versions next built
      refine ⟨version, UInt64.lt_iff_toNat_lt.mpr ?_⟩
      omega
    · intro free
      have down : t'.build config root (some s) = .error .overflow ↔ _ :=
        SourceTree.build_overflow_iff free
      simp only [Option.some.injEq, exists_eq_left'] at down
      refine ⟨down, ?_, ?_⟩
      · rintro ⟨next, built⟩
        have version := versions next built
        have word := next.version.toNat_lt
        omega
      · intro below
        cases result : t'.build config root (some s) with
        | ok next => exact ⟨next, rfl⟩
        | error fault =>
          obtain ⟨cause, _, stopped⟩ := (SourceTree.build_error_iff (hasRoom_some below)).mp result
          exact absurd stopped (free cause)

open Scanners

theorem sample_numbers_stay_whole :
    (sampleTree.save sampleSnapshot).1.load = .ok (some sampleSnapshot) ∧
    sampleSnapshot.graph.SearchesExactly "guide notes stdio" ∧
    ∃ next, sampleTree.build sampleConfig sampleRoot (some sampleSnapshot) = .ok next ∧
      next.version.toNat = 2 ∧ sampleSnapshot.version < next.version := by
  obtain ⟨exactly, _, _, builds⟩ := loaded_numbers_stay_whole sample_loaded
  obtain ⟨versions, _⟩ := builds sampleTree sampleConfig sampleRoot
  obtain ⟨next, built⟩ : ∃ next,
      sampleTree.build sampleConfig sampleRoot (some sampleSnapshot) = .ok next :=
    ⟨(sampleTree.build sampleConfig sampleRoot (some sampleSnapshot)).toOption.getD .empty,
      by decide +kernel⟩
  obtain ⟨version, above⟩ := versions next built
  have first : sampleSnapshot.version.toNat = 1 := by decide +kernel
  rw [first] at version
  exact ⟨sample_loaded, (exactly _).mpr (by decide +kernel), next, built, version, above⟩

/-- The last version, and a file whose counts of two terms add up to one more than the last word. -/
def worn : Snapshot :=
  .ofGraph 18446744073709551615 (Graph.after [.nodes
    [{ Node.new .file "leaf.rs" with tokens := .ofList [("leaf", 4294967295), ("tree", 1)] },
      (Node.new .file "twig.rs").addTerms "tree"]])

def wornTree : SourceTree := (sampleTree.save worn).1

/-- It is read back, and then neither the search for both terms nor a build on top comes to an end. -/
theorem worn_snapshot_goes_down :
    wornTree.load = .ok (some worn) ∧
    (worn.graph.nodes.map fun n => n.score (Term.tokenize "leaf tree").toFinset) = [2 ^ 32, 1] ∧
    worn.graph.search "leaf tree" 10 0 = .error .overflow ∧
    worn.version.toNat = 2 ^ 64 - 1 ∧
    wornTree.build sampleConfig sampleRoot none = .ok sampleSnapshot ∧
    wornTree.build sampleConfig sampleRoot (some worn) = .error .overflow := by
  decide +kernel

end SourceAtlas
