import Mathlib.Algebra.GroupWithZero.Nat
import SourceAtlas.Proofs.Distinct
import SourceAtlas.Proofs.TextMap
import SourceAtlas.Search

/-! What the index says of a list of nodes with different ids. A term leads to the nodes that have it, each
with its count, and what a query finds is one hit for every node with one of its terms, scored by the
sum of the node's counts, as long as that sum is a word. -/
namespace SourceAtlas

/-- What a node adds to the listing of a term. -/
def Node.posting? (n : Node) (term : String) : Option Posting :=
  (n.tokens.get? term).map (Posting.mk n.id)

/-- The counts that a node has for the terms. -/
def Node.counts (n : Node) (terms : List String) : List Nat :=
  (terms.filterMap n.tokens.get?).map UInt32.toNat

namespace SearchIndex

section Listing

variable {id : NodeId} {term : String}

theorem listing_foldl_addPosting {entries : List (String × UInt32)}
    (distinct : (entries.map (·.1)).Nodup) (postings : TextMap (List Posting)) :
    ((entries.foldl (addPosting id) postings).get? term).getD [] =
      (postings.get? term).getD [] ++
        ((entries.find? (·.1 = term)).map fun e => ⟨id, e.2⟩).toList := by
  induction entries generalizing postings with
  | nil => simp
  | cons entry rest ih =>
    obtain ⟨fresh, distinct⟩ := List.nodup_cons.mp distinct
    rw [List.foldl_cons, ih distinct, addPosting, TextMap.get_insert, List.find?_cons]
    by_cases here : entry.1 = term
    · subst here
      have never : rest.find? (·.1 = entry.1) = none := by
        rw [List.find?_eq_none]
        intro e he same
        exact fresh (List.mem_map.mpr ⟨e, he, of_decide_eq_true same⟩)
      simp [never]
    · simp [here]

theorem listing_addNode (index : SearchIndex) (n : Node) :
    (index.addNode n).listing term = index.listing term ++ (n.posting? term).toList := by
  have own : n.posting? term = (n.tokens.entries.find? (·.1 = term)).map fun e => ⟨n.id, e.2⟩ := by
    rw [Node.posting?, TextMap.get?, Option.map_map]
    rfl
  rw [own]
  exact listing_foldl_addPosting n.tokens.keys_nodup index.postings

theorem listing_ofNodes (nodes : List Node) :
    (ofNodes nodes).listing term = nodes.filterMap (·.posting? term) := by
  have each : ∀ index : SearchIndex, (nodes.foldl addNode index).listing term =
      index.listing term ++ nodes.filterMap (·.posting? term) := by
    induction nodes with
    | nil => simp
    | cons n rest ih =>
      intro index
      rw [List.foldl_cons, ih, listing_addNode, List.append_assoc, List.filterMap_cons]
      cases n.posting? term <;> rfl
  exact each empty

end Listing

theorem pathLengths_ofNodes (nodes : List Node) : (ofNodes nodes).pathLengths =
    (nodes.map fun n => (n.id, n.path.utf8ByteSize)).reverse := by
  have each : ∀ index : SearchIndex, (nodes.foldl addNode index).pathLengths =
      (nodes.map fun n => (n.id, n.path.utf8ByteSize)).reverse ++ index.pathLengths := by
    induction nodes with
    | nil => simp
    | cons n rest ih =>
      intro index
      rw [List.foldl_cons, ih]
      simp [addNode]
  exact (each empty).trans (List.append_nil _)

theorem pathLength_of_mem {nodes : List Node} (distinct : (nodes.map (·.id)).Nodup) {n : Node}
    (hn : n ∈ nodes) : (ofNodes nodes).pathLength n.id = n.path.utf8ByteSize := by
  have keys : ((nodes.map fun n => (n.id, n.path.utf8ByteSize)).reverse.map (·.1)).Nodup := by
    rw [List.map_reverse, List.nodup_reverse, List.map_map]
    exact distinct
  have entry : (n.id, n.path.utf8ByteSize) ∈
      (nodes.map fun n => (n.id, n.path.utf8ByteSize)).reverse :=
    List.mem_reverse.mpr (List.mem_map_of_mem hn)
  rw [pathLength, pathLengths_ofNodes, (find_key_iff keys).mpr ⟨entry, rfl⟩]
  rfl

section Credit

variable {hits more : List Hit} {posting : Posting} {postings : List Posting} {id : NodeId}

theorem addCounts_of_lt {a b : UInt32} (small : a.toNat + b.toNat < 2 ^ 32) :
    addCounts a b = .ok (a + b) :=
  if_pos small

theorem addCounts_of_le {a b : UInt32} (large : 2 ^ 32 ≤ a.toNat + b.toNat) :
    addCounts a b = .error .overflow :=
  if_neg (Nat.not_lt.mpr large)

/-- The score under which an id is found; an id that is not found has none. -/
def scoreAt (hits : List Hit) (id : NodeId) : Nat :=
  ((hits.find? (·.id = id)).map (·.score.toNat)).getD 0

/-- What postings count for an id. -/
def counted (postings : List Posting) (id : NodeId) : Nat :=
  ((postings.filter (·.id = id)).map (·.count.toNat)).sum

theorem scoreAt_cons (hit : Hit) (rest : List Hit) (id : NodeId) :
    scoreAt (hit :: rest) id = if hit.id = id then hit.score.toNat else scoreAt rest id := by
  unfold scoreAt
  rw [List.find?_cons]
  by_cases here : hit.id = id <;> simp [here]

theorem counted_cons (posting : Posting) (rest : List Posting) (id : NodeId) :
    counted (posting :: rest) id =
      (if posting.id = id then posting.count.toNat else 0) + counted rest id := by
  unfold counted
  by_cases here : posting.id = id <;> simp [here]

theorem scoreAt_lt (hits : List Hit) (id : NodeId) : scoreAt hits id < 2 ^ 32 := by
  unfold scoreAt
  cases hits.find? (·.id = id) with
  | none => exact Nat.two_pow_pos 32
  | some hit => exact hit.score.toNat_lt

theorem mem_iff_scoreAt (once : (hits.map (·.id)).Nodup) {hit : Hit} :
    hit ∈ hits ↔ hit.id ∈ hits.map (·.id) ∧ hit.score.toNat = scoreAt hits hit.id := by
  have scored : ∀ other ∈ hits, scoreAt hits other.id = other.score.toNat := by
    intro other member
    rw [scoreAt, (find_key_iff once).mpr ⟨member, rfl⟩]
    rfl
  constructor
  · intro member
    exact ⟨List.mem_map_of_mem member, (scored hit member).symm⟩
  · rintro ⟨listed, score⟩
    obtain ⟨other, member, same⟩ := List.mem_map.mp listed
    rw [← same, scored other member] at score
    have equal : hit = other := by
      cases hit
      cases other
      cases same
      cases UInt32.toNat_inj.mp score
      rfl
    exact equal ▸ member

/-- What postings make of hits: the ids of both are found, each once, and the counts are added. -/
structure Credited (hits : List Hit) (postings : List Posting) (more : List Hit) : Prop where
  once : (more.map (·.id)).Nodup
  ids : ∀ id, id ∈ more.map (·.id) ↔ id ∈ hits.map (·.id) ∨ id ∈ postings.map (·.id)
  score : ∀ id, scoreAt more id = scoreAt hits id + counted postings id

namespace Credited

theorem refl (once : (hits.map (·.id)).Nodup) : Credited hits [] hits :=
  ⟨once, by simp, fun _ => rfl⟩

theorem trans {last : List Hit} (first : Credited hits [posting] more)
    (others : Credited more postings last) : Credited hits (posting :: postings) last where
  once := others.once
  ids id := by rw [others.ids, first.ids, List.map_cons, List.map_nil, List.map_cons, List.mem_singleton,
    List.mem_cons, or_assoc]
  score id := by
    rw [others.score, first.score, counted_cons posting postings, counted_cons posting []]
    simp [counted, Nat.add_assoc]

/-- The first hit is the one that a count is added to. -/
theorem here {hit : Hit} {rest : List Hit} (once : ((hit :: rest).map (·.id)).Nodup)
    (same : hit.id = posting.id) (small : hit.score.toNat + posting.count.toNat < 2 ^ 32) :
    Credited (hit :: rest) [posting] (⟨hit.id, hit.score + posting.count⟩ :: rest) where
  once := once
  ids id := by
    simp only [List.map_cons, List.map_nil, List.mem_cons, List.not_mem_nil, or_false, same]
    tauto
  score id := by
    have sum : (hit.score + posting.count).toNat = hit.score.toNat + posting.count.toNat := by
      rw [UInt32.toNat_add, Nat.mod_eq_of_lt small]
    rw [scoreAt_cons, scoreAt_cons, counted_cons, sum, same]
    by_cases here : posting.id = id <;> simp [counted, here]

/-- A count is added behind the first hit. -/
theorem behind {hit : Hit} {rest : List Hit} (once : ((hit :: rest).map (·.id)).Nodup)
    (other : hit.id ≠ posting.id) (h : Credited rest [posting] more) :
    Credited (hit :: rest) [posting] (hit :: more) where
  once := by
    rw [List.map_cons, List.nodup_cons] at once ⊢
    refine ⟨?_, h.once⟩
    intro listed
    rcases (h.ids hit.id).mp listed with old | new
    · exact once.1 old
    · exact other (List.mem_singleton.mp new)
  ids id := by simp only [List.map_cons, List.mem_cons, h.ids, or_assoc]
  score id := by
    have more := h.score id
    rw [scoreAt_cons, scoreAt_cons, more, counted_cons]
    by_cases here : hit.id = id
    · have away : posting.id ≠ id := fun e => other (here.trans e.symm)
      simp [here, away, counted]
    · simp [here]

end Credited

/-- A count is added, or the sum is no word. -/
theorem credit_cases (once : (hits.map (·.id)).Nodup) (posting : Posting) :
    (∃ more, credit posting hits = .ok more ∧ Credited hits [posting] more) ∨
      credit posting hits = .error .overflow ∧
        2 ^ 32 ≤ scoreAt hits posting.id + posting.count.toNat := by
  induction hits with
  | nil =>
    refine .inl ⟨_, rfl, by simp, by simp, ?_⟩
    intro id
    rw [scoreAt_cons, counted_cons]
    exact (Nat.zero_add _).symm
  | cons hit rest ih =>
    by_cases same : hit.id = posting.id
    · rw [scoreAt_cons, if_pos same, credit, if_pos same]
      by_cases small : hit.score.toNat + posting.count.toNat < 2 ^ 32
      · rw [addCounts_of_lt small]
        exact .inl ⟨_, rfl, .here once same small⟩
      · rw [addCounts_of_le (Nat.not_lt.mp small)]
        exact .inr ⟨rfl, Nat.not_lt.mp small⟩
    · rw [scoreAt_cons, if_neg same, credit, if_neg same]
      rcases ih (List.nodup_cons.mp once).2 with ⟨more, added, h⟩ | ⟨failed, large⟩
      · rw [added]
        exact .inl ⟨_, rfl, h.behind once same⟩
      · rw [failed]
        exact .inr ⟨rfl, large⟩

/-- All counts are added, unless some score would be no word. -/
theorem creditAll_cases (once : (hits.map (·.id)).Nodup) (postings : List Posting) :
    (∃ more, creditAll hits postings = .ok more ∧ Credited hits postings more) ∨
      creditAll hits postings = .error .overflow ∧
        ∃ id, 2 ^ 32 ≤ scoreAt hits id + counted postings id := by
  induction postings generalizing hits with
  | nil => exact .inl ⟨hits, rfl, .refl once⟩
  | cons posting rest ih =>
    rw [creditAll, List.foldlM_cons]
    rcases credit_cases once posting with ⟨next, added, first⟩ | ⟨failed, large⟩
    · rw [added]
      rcases ih first.once with ⟨more, rest, others⟩ | ⟨failed, id, large⟩
      · exact .inl ⟨more, rest, first.trans others⟩
      · refine .inr ⟨failed, id, ?_⟩
        rw [first.score, Nat.add_assoc, counted_cons] at large
        rw [counted_cons]
        exact large
    · rw [failed]
      refine .inr ⟨rfl, posting.id, ?_⟩
      rw [counted_cons, if_pos rfl]
      omega

end Credit

section Found

variable {nodes : List Node} {terms : List String}

theorem creditAll_append (hits : List Hit) (first others : List Posting) :
    creditAll hits (first ++ others) = creditAll hits first >>= fun more => creditAll more others :=
  List.foldlM_append

theorem found_eq (index : SearchIndex) (terms : List String) :
    index.found terms = creditAll [] (terms.flatMap index.listing) := by
  have each : ∀ hits, terms.foldlM (fun hits term => creditAll hits (index.listing term)) hits =
      creditAll hits (terms.flatMap index.listing) := by
    induction terms with
    | nil => exact fun _ => rfl
    | cons term rest ih =>
      intro hits
      rw [List.foldlM_cons, List.flatMap_cons, creditAll_append]
      exact bind_congr ih
  exact each []

/-- Of nodes with different ids one alone speaks about its id. -/
theorem filterMap_of_distinct {β : Type} {f : Node → Option β} {n : Node}
    (distinct : (nodes.map (·.id)).Nodup) (hn : n ∈ nodes)
    (silent : ∀ m ∈ nodes, m.id ≠ n.id → f m = none) : nodes.filterMap f = (f n).toList := by
  induction nodes with
  | nil => cases hn
  | cons first rest ih =>
    obtain ⟨fresh, distinct⟩ := List.nodup_cons.mp distinct
    have later : ∀ m ∈ rest, m.id ≠ n.id → f m = none :=
      fun m hm => silent m (List.mem_cons_of_mem _ hm)
    rcases List.mem_cons.mp hn with rfl | hn
    · have others : rest.filterMap f = [] := by
        rw [List.filterMap_eq_nil_iff]
        intro m hm
        exact later m hm fun same => fresh (List.mem_map.mpr ⟨m, hm, same⟩)
      rw [List.filterMap_cons, others]
      cases f n <;> rfl
    · have other : first.id ≠ n.id := fun same => fresh (List.mem_map.mpr ⟨n, hn, same.symm⟩)
      rw [List.filterMap_cons, silent first List.mem_cons_self other]
      exact ih distinct hn later

theorem counts_listed (distinct : (nodes.map (·.id)).Nodup) {n : Node} (hn : n ∈ nodes) :
    ((terms.flatMap (ofNodes nodes).listing).filter (·.id = n.id)).map (·.count) =
      terms.filterMap n.tokens.get? := by
  rw [List.filter_flatMap, List.map_flatMap, List.filterMap_eq_flatMap_toList]
  apply List.flatMap_congr
  intro term _
  have silent : ∀ m ∈ nodes, m.id ≠ n.id →
      ((m.posting? term).filter (·.id = n.id)).map (·.count) = none := by
    intro m _ other
    rw [Node.posting?]
    cases m.tokens.get? term <;> simp [other]
  rw [listing_ofNodes, List.filter_filterMap, List.map_filterMap,
    filterMap_of_distinct distinct hn silent, Node.posting?]
  cases n.tokens.get? term <;> simp

theorem counted_listed (distinct : (nodes.map (·.id)).Nodup) {n : Node} (hn : n ∈ nodes) :
    counted (terms.flatMap (ofNodes nodes).listing) n.id = (n.counts terms).sum := by
  rw [Node.counts, ← counts_listed distinct hn, List.map_map]
  rfl

/-- A posting carries the id of the node that it was made for. -/
theorem mem_listed_iff {id : NodeId} : id ∈ (terms.flatMap (ofNodes nodes).listing).map (·.id) ↔
    ∃ n ∈ nodes, n.counts terms ≠ [] ∧ n.id = id := by
  have some : ∀ n : Node, n.counts terms ≠ [] ↔ ∃ term ∈ terms, ∃ p, n.posting? term = some p := by
    intro n
    simp only [Node.counts, ne_eq, List.map_eq_nil_iff, List.filterMap_eq_nil_iff, not_forall,
      Node.posting?, Option.map_eq_some_iff]
    constructor
    · rintro ⟨term, ht, known⟩
      obtain ⟨count, known⟩ := Option.ne_none_iff_exists'.mp known
      exact ⟨term, ht, _, count, known, rfl⟩
    · rintro ⟨term, ht, _, count, known, _⟩
      exact ⟨term, ht, by simp [known]⟩
  simp only [List.mem_map, List.mem_flatMap, listing_ofNodes, List.mem_filterMap, some]
  constructor
  · rintro ⟨p, ⟨term, ht, n, hn, made⟩, rfl⟩
    refine ⟨n, hn, ⟨term, ht, p, made⟩, ?_⟩
    obtain ⟨_, _, rfl⟩ := Option.map_eq_some_iff.mp made
    rfl
  · rintro ⟨n, hn, ⟨term, ht, p, made⟩, rfl⟩
    refine ⟨p, ⟨term, ht, n, hn, made⟩, ?_⟩
    obtain ⟨_, _, rfl⟩ := Option.map_eq_some_iff.mp made
    rfl

theorem counted_eq_zero {postings : List Posting} {id : NodeId} (absent : id ∉ postings.map (·.id)) :
    counted postings id = 0 := by
  have none : postings.filter (·.id = id) = [] := by
    rw [List.filter_eq_nil_iff]
    intro p hp same
    exact absent (List.mem_map.mpr ⟨p, hp, of_decide_eq_true same⟩)
  rw [counted, none]
  rfl

/-- What is found is the nodes that have some of the terms, each with the sum of its counts. -/
structure FoundIn (nodes : List Node) (terms : List String) (hits : List Hit) : Prop where
  once : (hits.map (·.id)).Nodup
  mem_iff : ∀ hit, hit ∈ hits ↔ ∃ n ∈ nodes, n.counts terms ≠ [] ∧ hit.id = n.id ∧
    hit.score.toNat = (n.counts terms).sum

/-- A query goes down exactly if the counts of some node add up to more than a word. -/
theorem found_cases (distinct : (nodes.map (·.id)).Nodup) (terms : List String) :
    (∃ hits, (ofNodes nodes).found terms = .ok hits ∧ FoundIn nodes terms hits ∧
      ∀ n ∈ nodes, (n.counts terms).sum < 2 ^ 32) ∨
    (ofNodes nodes).found terms = .error .overflow ∧
      ∃ n ∈ nodes, 2 ^ 32 ≤ (n.counts terms).sum := by
  rw [found_eq]
  have nothing : (([] : List Hit).map (·.id)).Nodup := List.nodup_nil
  rcases creditAll_cases nothing (terms.flatMap (ofNodes nodes).listing) with
    ⟨hits, found, credited⟩ | ⟨failed, id, large⟩
  · have score : ∀ id, scoreAt hits id = counted (terms.flatMap (ofNodes nodes).listing) id :=
      fun id => (credited.score id).trans (Nat.zero_add _)
    refine .inl ⟨hits, found, ⟨credited.once, ?_⟩, ?_⟩
    · intro hit
      rw [mem_iff_scoreAt credited.once, credited.ids, score, mem_listed_iff]
      constructor
      · rintro ⟨nothing | ⟨n, hn, some, same⟩, scored⟩
        · cases nothing
        · rw [← same, counted_listed distinct hn] at scored
          exact ⟨n, hn, some, same.symm, scored⟩
      · rintro ⟨n, hn, some, same, scored⟩
        refine ⟨.inr ⟨n, hn, some, same.symm⟩, ?_⟩
        rw [same, counted_listed distinct hn, scored]
    · intro n hn
      rw [← counted_listed distinct hn, ← score]
      exact scoreAt_lt hits n.id
  · have beyond : 2 ^ 32 ≤ counted (terms.flatMap (ofNodes nodes).listing) id := by
      rw [← Nat.zero_add (counted _ id)]
      exact large
    refine .inr ⟨failed, ?_⟩
    by_cases listed : id ∈ (terms.flatMap (ofNodes nodes).listing).map (·.id)
    · obtain ⟨n, hn, _, rfl⟩ := mem_listed_iff.mp listed
      exact ⟨n, hn, counted_listed distinct hn ▸ beyond⟩
    · rw [counted_eq_zero listed] at beyond
      exact absurd beyond (by decide)

end Found

end SearchIndex

end SourceAtlas
