import Mathlib.Algebra.BigOperators.Group.Finset.Basic
import Mathlib.Algebra.Order.BigOperators.Group.Finset
import SourceAtlas.Proofs.Graph.History
import SourceAtlas.Proofs.Search.Index

/-! A query answers with pages of one ranking: all nodes that have some of its terms, by how often they have
them, then by the length of their paths, then by their ids. The order leaves no two nodes undecided, so
it does not matter in which order the nodes were found. -/
namespace SourceAtlas

namespace Node

def count (n : Node) (term : String) : Nat := ((n.tokens.get? term).map UInt32.toNat).getD 0

/-- All that is counted in a node. -/
def total (n : Node) : Nat := (n.tokens.values.map UInt32.toNat).sum

def score (n : Node) (terms : Finset String) : Nat := ∑ term ∈ terms, n.count term

def HasSome (n : Node) (terms : Finset String) : Prop := ∃ term ∈ terms, n.tokens.contains term = true

instance (n : Node) (terms : Finset String) : Decidable (n.HasSome terms) :=
  inferInstanceAs (Decidable (∃ term ∈ terms, n.tokens.contains term = true))

def RanksBefore (terms : Finset String) (a b : Node) : Prop :=
  b.score terms < a.score terms ∨ a.score terms = b.score terms ∧
    (a.path.utf8ByteSize < b.path.utf8ByteSize ∨ a.path.utf8ByteSize = b.path.utf8ByteSize ∧
      a.id.val < b.id.val)

/-- What a node is found with. -/
def hit (terms : Finset String) (n : Node) : Hit := ⟨n.id, UInt32.ofNat (n.score terms)⟩

variable {n : Node} {terms : List String}

theorem counts_sum (n : Node) (terms : List String) :
    (n.counts terms).sum = (terms.map n.count).sum := by
  induction terms with
  | nil => rfl
  | cons term rest ih =>
    rw [counts] at ih ⊢
    rw [List.filterMap_cons, List.map_cons, List.sum_cons, ← ih, count]
    cases n.tokens.get? term <;> simp

theorem score_eq_counts (distinct : terms.Nodup) :
    n.score terms.toFinset = (n.counts terms).sum := by
  rw [score, List.sum_toFinset _ distinct, counts_sum]

theorem hasSome_iff_counts : n.HasSome terms.toFinset ↔ n.counts terms ≠ [] := by
  simp only [HasSome, List.mem_toFinset, counts, ne_eq, List.map_eq_nil_iff,
    List.filterMap_eq_nil_iff, TextMap.contains_eq_isSome]
  constructor
  · rintro ⟨term, ht, known⟩ none
    rw [none term ht] at known
    cases known
  · intro some
    by_contra none
    apply some
    intro term ht
    by_contra known
    exact none ⟨term, ht, Option.isSome_iff_ne_none.mpr known⟩

theorem count_of_mem {entry : String × UInt32} (h : entry ∈ n.tokens.entries) :
    n.count entry.1 = entry.2.toNat := by
  rw [count, TextMap.mem_entries_iff.mp h]
  rfl

theorem count_eq_zero {term : String} (h : term ∉ n.tokens.keys) : n.count term = 0 := by
  have absent : n.tokens.get? term = none := by
    cases known : n.tokens.get? term with
    | none => rfl
    | some value => exact absurd (List.mem_map_of_mem (TextMap.mem_entries_iff.mpr known)) h
  rw [count, absent]
  rfl

theorem total_eq_sum (n : Node) : n.total = ∑ term ∈ n.tokens.keys.toFinset, n.count term := by
  have keys : ∑ term ∈ n.tokens.keys.toFinset, n.count term = (n.tokens.keys.map n.count).sum :=
    List.sum_toFinset _ n.tokens.keys_nodup
  rw [keys, total, TextMap.keys, TextMap.values, List.map_map, List.map_map]
  congr 1
  apply List.map_congr_left
  intro entry h
  exact (count_of_mem h).symm

/-- Terms that the node does not have count nothing. -/
theorem score_le_of_keys {terms others : Finset String}
    (within : ∀ term ∈ n.tokens.keys, term ∈ terms → term ∈ others) :
    n.score terms ≤ n.score others := by
  have own : n.score terms = ∑ term ∈ terms ∩ n.tokens.keys.toFinset, n.count term := by
    symm
    apply Finset.sum_subset Finset.inter_subset_left
    intro term ht outside
    apply count_eq_zero
    intro known
    exact outside (Finset.mem_inter.mpr ⟨ht, List.mem_toFinset.mpr known⟩)
  rw [own]
  apply Finset.sum_le_sum_of_subset
  intro term h
  obtain ⟨ht, known⟩ := Finset.mem_inter.mp h
  exact within term (List.mem_toFinset.mp known) ht

theorem score_le_total (n : Node) (terms : Finset String) : n.score terms ≤ n.total := by
  rw [total_eq_sum]
  exact score_le_of_keys fun _ known _ => List.mem_toFinset.mpr known

/-- A score is kept as a word. -/
theorem hit_score (n : Node) (terms : Finset String) :
    (n.hit terms).score.toNat = n.score terms % 2 ^ 32 :=
  UInt32.toNat_ofNat'

theorem hit_score_of_counted (counted : n.total < 2 ^ 32) (terms : Finset String) :
    (n.hit terms).score.toNat = n.score terms := by
  rw [hit_score, Nat.mod_eq_of_lt (Nat.lt_of_le_of_lt (n.score_le_total terms) counted)]

end Node

namespace Term

theorem mem_distinct {text term : String} : term ∈ distinct text ↔ term ∈ tokenize text := by
  constructor
  · exact mem_of_mem_distinctBy
  · intro h
    have kept : ∃ other ∈ distinctBy id (tokenize text), id other = id term :=
      exists_mem_distinctBy h
    obtain ⟨other, kept, same⟩ := kept
    rw [id_eq, id_eq] at same
    exact same ▸ kept

theorem distinct_nodup (text : String) : (distinct text).Nodup := distinctBy_pairwise id _

theorem distinct_toFinset (text : String) : (distinct text).toFinset = (tokenize text).toFinset := by
  ext term
  rw [List.mem_toFinset, List.mem_toFinset, mem_distinct]

end Term

namespace SearchIndex

variable {index : SearchIndex} {a b c : Hit}

theorem ranksBefore_iff : index.ranksBefore a b = true ↔
    b.score < a.score ∨ a.score = b.score ∧ (index.pathLength a.id < index.pathLength b.id ∨
      index.pathLength a.id = index.pathLength b.id ∧ a.id.val ≤ b.id.val) := by
  simp [ranksBefore]

theorem ranksBefore_trans (hab : index.ranksBefore a b = true) (hbc : index.ranksBefore b c = true) :
    index.ranksBefore a c = true := by
  simp only [ranksBefore_iff, UInt32.lt_iff_toNat_lt, ← UInt32.toNat_inj, UInt64.le_iff_toNat_le] at *
  omega

theorem ranksBefore_total (index : SearchIndex) (a b : Hit) :
    (index.ranksBefore a b || index.ranksBefore b a) = true := by
  simp only [Bool.or_eq_true, ranksBefore_iff, UInt32.lt_iff_toNat_lt, ← UInt32.toNat_inj,
    UInt64.le_iff_toNat_le]
  omega

theorem ranksBefore_antisymm (hab : index.ranksBefore a b = true)
    (hba : index.ranksBefore b a = true) : a = b := by
  obtain ⟨⟨id⟩, score⟩ := a
  obtain ⟨⟨id'⟩, score'⟩ := b
  simp only [ranksBefore_iff, UInt32.lt_iff_toNat_lt, ← UInt32.toNat_inj, UInt64.le_iff_toNat_le] at *
  have scores : score = score' := UInt32.toNat_inj.mp (by omega)
  have ids : id = id' := UInt64.toNat_inj.mp (by omega)
  rw [scores, ids]

/-- The same hits are ranked in one way, in whatever order they come. -/
theorem mergeSort_eq_of_perm {hits ranking : List Hit} (perm : hits.Perm ranking)
    (sorted : ranking.Pairwise fun a b => index.ranksBefore a b = true) :
    hits.mergeSort index.ranksBefore = ranking :=
  mergeSort_eq_of_pairwise (fun _ _ _ => ranksBefore_trans) index.ranksBefore_total
    (fun _ _ _ _ hab hba => ranksBefore_antisymm hab hba) sorted perm

section Nodes

variable {nodes : List Node} {terms : List String}

/-- Nodes whose scores are words are found with them. -/
theorem FoundIn.perm {hits : List Hit} (ids : (nodes.map (·.id)).Nodup) (distinct : terms.Nodup)
    (h : FoundIn nodes terms hits) (small : ∀ n ∈ nodes, (n.counts terms).sum < 2 ^ 32) :
    hits.Perm ((nodes.filter fun n => n.HasSome terms.toFinset).map (Node.hit terms.toFinset)) := by
  have once : ((nodes.filter fun n => n.HasSome terms.toFinset).map
      (Node.hit terms.toFinset)).Nodup := by
    apply List.Nodup.of_map Hit.id
    rw [List.map_map]
    exact (List.filter_sublist.map _).nodup ids
  have word : ∀ n ∈ nodes, (n.hit terms.toFinset).score.toNat = (n.counts terms).sum := by
    intro n hn
    rw [Node.hit_score, Node.score_eq_counts distinct, Nat.mod_eq_of_lt (small n hn)]
  apply (List.perm_ext_iff_of_nodup h.once.of_map once).mpr
  intro hit
  rw [h.mem_iff, List.mem_map]
  constructor
  · rintro ⟨n, hn, some, id, score⟩
    refine ⟨n, List.mem_filter.mpr ⟨hn, decide_eq_true (Node.hasSome_iff_counts.mpr some)⟩, ?_⟩
    rw [← word n hn] at score
    cases hit
    cases id
    cases UInt32.toNat_inj.mp score
    rfl
  · rintro ⟨n, hn, rfl⟩
    obtain ⟨hn, some⟩ := List.mem_filter.mp hn
    exact ⟨n, hn, Node.hasSome_iff_counts.mp (of_decide_eq_true some), rfl, word n hn⟩

theorem found_perm (ids : (nodes.map (·.id)).Nodup) (distinct : terms.Nodup)
    (small : ∀ n ∈ nodes, n.score terms.toFinset < 2 ^ 32) :
    ∃ hits, (ofNodes nodes).found terms = .ok hits ∧
      hits.Perm ((nodes.filter fun n => n.HasSome terms.toFinset).map (Node.hit terms.toFinset)) := by
  rcases found_cases ids terms with ⟨hits, found, listed, words⟩ | ⟨_, n, hn, large⟩
  · exact ⟨hits, found, listed.perm ids distinct words⟩
  · rw [← Node.score_eq_counts distinct] at large
    exact absurd (small n hn) (Nat.not_lt.mpr large)

/-- Among nodes of one list, hits are ranked as their nodes are. -/
theorem ranksBefore_hit {terms : Finset String} (ids : (nodes.map (·.id)).Nodup)
    (counted : ∀ n ∈ nodes, n.total < 2 ^ 32) {a b : Node} (ha : a ∈ nodes) (hb : b ∈ nodes) :
    (ofNodes nodes).ranksBefore (a.hit terms) (b.hit terms) = true ↔
      a.id = b.id ∨ a.RanksBefore terms b := by
  have word : ∀ n ∈ nodes, (n.hit terms).score.toNat = n.score terms :=
    fun n hn => Node.hit_score_of_counted (counted n hn) terms
  have equal : a.id = b.id → a = b := List.inj_on_of_nodup_map ids ha hb
  have id : ∀ n : Node, (n.hit terms).id = n.id := fun _ => rfl
  rw [ranksBefore_iff, UInt32.lt_iff_toNat_lt, ← UInt32.toNat_inj, word a ha, word b hb, id, id,
    pathLength_of_mem ids ha, pathLength_of_mem ids hb, Node.RanksBefore]
  by_cases same : a.id = b.id
  · simp [equal same]
  · have values : a.id.val ≠ b.id.val := fun e => same (congrArg NodeId.mk e)
    simp only [same, false_or, UInt64.le_iff_toNat_le, UInt64.lt_iff_toNat_lt,
      ← UInt64.toNat_inj, ne_eq] at values ⊢
    omega

end Nodes

end SearchIndex

/-- The nodes that a text finds, as they are ranked. -/
structure RankingOf (nodes : List Node) (terms : Finset String) (ranked : List Node) : Prop where
  perm : ranked.Perm (nodes.filter fun n => n.HasSome terms)
  once : (ranked.map (·.id)).Nodup
  ordered : ranked.Pairwise (Node.RanksBefore terms)

theorem exists_ranking {nodes : List Node} (ids : (nodes.map (·.id)).Nodup)
    (counted : ∀ n ∈ nodes, n.total < 2 ^ 32) (terms : Finset String) :
    ∃ ranked, RankingOf nodes terms ranked ∧ (ranked.map (Node.hit terms)).Pairwise fun a b =>
      (SearchIndex.ofNodes nodes).ranksBefore a b = true := by
  let before (a b : Node) : Bool :=
    (SearchIndex.ofNodes nodes).ranksBefore (a.hit terms) (b.hit terms)
  have trans : ∀ a b c, before a b = true → before b c = true → before a c = true :=
    fun _ _ _ => SearchIndex.ranksBefore_trans
  have total : ∀ a b, (before a b || before b a) = true :=
    fun _ _ => SearchIndex.ranksBefore_total _ _ _
  have sorted := List.pairwise_mergeSort trans total (nodes.filter fun n => n.HasSome terms)
  have perm := List.mergeSort_perm (nodes.filter fun n => n.HasSome terms) before
  have once : (((nodes.filter fun n => n.HasSome terms).mergeSort before).map (·.id)).Nodup :=
    (perm.map _).nodup_iff.mpr ((List.filter_sublist.map _).nodup ids)
  refine ⟨_, ⟨perm, once, ?_⟩, List.pairwise_map.mpr sorted⟩
  refine (sorted.and (List.pairwise_map.mp once)).imp_of_mem ?_
  intro a b ha hb ⟨le, other⟩
  have known : ∀ {n}, n ∈ (nodes.filter fun n => n.HasSome terms).mergeSort before → n ∈ nodes :=
    fun h => (List.mem_filter.mp (perm.mem_iff.mp h)).1
  exact ((SearchIndex.ranksBefore_hit ids counted (known ha) (known hb)).mp le).resolve_left other

/-- What an index finds is ranked as its nodes are, whatever was found first. -/
theorem ranking_eq {nodes : List Node} (ids : (nodes.map (·.id)).Nodup)
    (counted : ∀ n ∈ nodes, n.total < 2 ^ 32) (text : String) :
    ∃ ranked all, RankingOf nodes (Term.tokenize text).toFinset ranked ∧
      (SearchIndex.ofNodes nodes).found (Term.distinct text) = .ok all ∧
      ∀ found : List Hit, found.Perm all → found.mergeSort (SearchIndex.ofNodes nodes).ranksBefore =
        ranked.map (Node.hit (Term.tokenize text).toFinset) := by
  obtain ⟨ranked, ranking, sorted⟩ := exists_ranking ids counted (Term.tokenize text).toFinset
  have small : ∀ n ∈ nodes, n.score (Term.distinct text).toFinset < 2 ^ 32 :=
    fun n hn => Nat.lt_of_le_of_lt (n.score_le_total _) (counted n hn)
  obtain ⟨all, found, listed⟩ := SearchIndex.found_perm ids (Term.distinct_nodup text) small
  rw [Term.distinct_toFinset] at listed
  refine ⟨ranked, all, ranking, found, ?_⟩
  intro found perm
  exact SearchIndex.mergeSort_eq_of_perm ((perm.trans listed).trans (ranking.perm.map _).symm) sorted

/-- The ranking of a text is the one of the nodes that it finds. -/
theorem ranking_eq_ok {nodes : List Node} (ids : (nodes.map (·.id)).Nodup)
    (counted : ∀ n ∈ nodes, n.total < 2 ^ 32) (text : String) :
    ∃ ranked, RankingOf nodes (Term.tokenize text).toFinset ranked ∧
      (SearchIndex.ofNodes nodes).ranking text =
        .ok (ranked.map (Node.hit (Term.tokenize text).toFinset)) := by
  obtain ⟨ranked, all, ranking, found, anyOrder⟩ := ranking_eq ids counted text
  refine ⟨ranked, ranking, ?_⟩
  rw [SearchIndex.ranking, found]
  exact congrArg Except.ok (anyOrder all (List.Perm.refl all))

theorem SearchIndex.query_eq {index : SearchIndex} {text : String} {hits : List Hit}
    (ranked : index.ranking text = .ok hits) (limit offset : Nat) : index.query text limit offset =
      if limit = 0 then .error (.invalidArgument .zeroLimit)
      else if 1000 < limit then .error (.invalidArgument (.limitAbove 1000))
      else .ok ((hits.drop offset).take limit) := by
  rw [query, ranked]
  rfl

theorem flatMap_pages {α : Type} (xs : List α) (limit pages : Nat) :
    (List.range pages).flatMap (fun k => (xs.drop (k * limit)).take limit) =
      xs.take (pages * limit) := by
  induction pages with
  | zero => simp
  | succ pages ih =>
    rw [List.range_succ, List.flatMap_append, ih, Nat.succ_mul, List.take_add]
    simp

/-- What a text finds in a graph, whatever calls made it: its pages are those of one ranking, and together
they list every node that has a term of the text once. -/
theorem search_pages_ranking (calls : List Call) (text : String)
    (counted : ∀ n ∈ (Graph.after calls).nodes, n.total < 2 ^ 32) :
    ∃ (ranked : List Node) (hits : List Hit),
      RankingOf (Graph.after calls).nodes (Term.tokenize text).toFinset ranked ∧
      hits.map (fun h => (h.id, h.score.toNat)) =
        ranked.map (fun n => (n.id, n.score (Term.tokenize text).toFinset)) ∧
      (∀ limit offset, (Graph.after calls).search text limit offset =
        if limit = 0 then .error (.invalidArgument .zeroLimit)
        else if 1000 < limit then .error (.invalidArgument (.limitAbove 1000))
        else .ok ((hits.drop offset).take limit)) ∧
      (∃ all, (SearchIndex.ofNodes (Graph.after calls).nodes).found (Term.distinct text) = .ok all ∧
        ∀ found : List Hit, found.Perm all →
          found.mergeSort (SearchIndex.ofNodes (Graph.after calls).nodes).ranksBefore = hits) ∧
      ∀ limit pages, 0 < limit → limit ≤ 1000 → hits.length ≤ pages * limit →
        ∃ chunks, (List.range pages).mapM
            (fun k => (Graph.after calls).search text limit (k * limit)) = .ok chunks ∧
          chunks.flatten = hits := by
  obtain ⟨ranked, all, ranking, found, anyOrder⟩ :=
    ranking_eq (Graph.after_wellFormed calls).ids_distinct counted text
  let hits := ranked.map (Node.hit (Term.tokenize text).toFinset)
  have pages : ∀ limit offset, (Graph.after calls).search text limit offset =
      if limit = 0 then .error (.invalidArgument .zeroLimit)
      else if 1000 < limit then .error (.invalidArgument (.limitAbove 1000))
      else .ok ((hits.drop offset).take limit) := by
    refine SearchIndex.query_eq ?_
    rw [SearchIndex.ranking, found]
    exact congrArg Except.ok (anyOrder all (List.Perm.refl all))
  refine ⟨ranked, hits, ranking, ?_, pages, ⟨all, found, anyOrder⟩, ?_⟩
  · rw [List.map_map]
    apply List.map_congr_left
    intro n hn
    have known := (List.mem_filter.mp (ranking.perm.mem_iff.mp hn)).1
    have small := Nat.lt_of_le_of_lt (n.score_le_total (Term.tokenize text).toFinset) (counted n known)
    exact Prod.ext rfl (UInt32.toNat_ofNat_of_lt' small)
  · intro limit count positive small enough
    have page : (fun k => (Graph.after calls).search text limit (k * limit)) =
        fun k => (pure ((hits.drop (k * limit)).take limit) : Except Fault (List Hit)) := by
      funext k
      rw [pages, if_neg (Nat.ne_of_gt positive), if_neg (Nat.not_lt.mpr small)]
      rfl
    refine ⟨(List.range count).map fun k => (hits.drop (k * limit)).take limit, ?_, ?_⟩
    · rw [page, List.mapM_pure]
      rfl
    · rw [← List.flatMap_def, flatMap_pages, List.take_of_length_le enough]

/-- Two files of one score, one of them put again with other terms, and a symbol that has both terms. -/
def rankedCalls : List Call :=
  [.nodes [(Node.new .file "b/tree.rs").addTerms "leaf leaf", (Node.new .file "tree.rs").addTerms "tree",
      (Node.new .symbol "tree.rs#treeLeaf").addTerms "treeLeaf root"],
    .nodes [(Node.new .file "b/tree.rs").addTerms "tree", (Node.new .file "notes.md").addTerms "root"]]

def rankedHits : List Hit :=
  [⟨NodeId.of .symbol "tree.rs#treeLeaf", 2⟩, ⟨NodeId.of .file "tree.rs", 1⟩,
    ⟨NodeId.of .file "b/tree.rs", 1⟩]

theorem ranked_calls_pages :
    (∀ n ∈ (Graph.after rankedCalls).nodes, n.total < 2 ^ 32) ∧
    (∃ ranked, RankingOf (Graph.after rankedCalls).nodes
      (Term.tokenize "Tree leafTree").toFinset ranked ∧
      ranked.map (·.id) = rankedHits.map (·.id)) ∧
    (Graph.after rankedCalls).search "Tree leafTree" 2 0 = .ok (rankedHits.take 2) ∧
    (Graph.after rankedCalls).search "Tree leafTree" 2 2 = .ok (rankedHits.drop 2) ∧
    (Graph.after rankedCalls).search "Tree leafTree" 0 2 = .error (.invalidArgument .zeroLimit) := by
  have counted : ∀ n ∈ (Graph.after rankedCalls).nodes, n.total < 2 ^ 32 := by decide +kernel
  obtain ⟨ranked, hits, ranking, scores, pages, ⟨all, found, anyOrder⟩, _⟩ :=
    search_pages_ranking rankedCalls "Tree leafTree" counted
  have listed : hits = rankedHits := by
    have perm : ((SearchIndex.ofNodes (Graph.after rankedCalls).nodes).found
        (Term.distinct "Tree leafTree")).toOption.any fun all => rankedHits.isPerm all := by
      decide +kernel
    rw [found] at perm
    rw [← anyOrder rankedHits (List.isPerm_iff.mp perm)]
    exact SearchIndex.mergeSort_eq_of_perm (List.Perm.refl _) (by decide +kernel)
  subst listed
  have ids := congrArg (List.map Prod.fst) scores
  rw [List.map_map, List.map_map] at ids
  exact ⟨counted, ⟨ranked, ranking, ids.symm⟩, pages 2 0, pages 2 2, pages 0 2⟩

end SourceAtlas
