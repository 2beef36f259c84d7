import SourceAtlas.Build.Assembly
import SourceAtlas.Proofs.Search.Ranking

/-! What is counted in a node. Text after text goes into it, so in the end it has the terms of one long list,
each as often as the list has it. A text with terms from that list finds the node, and each of its terms
adds at least one to the score. -/
namespace SourceAtlas

/-- The node has the terms of the list, each as often as it occurs there. Counts are words. -/
def Node.Counts (n : Node) (terms : List String) : Prop :=
  ∀ term, n.tokens.get? term =
    if term ∈ terms then some (UInt32.ofNat (terms.count term)) else none

namespace Node.Counts

variable {m n : Node} {terms : List String}

theorem new (kind : NodeKind) (path : String) : (Node.new kind path).Counts [] := by
  intro term
  simp [Node.new]

theorem of_tokens (h : n.Counts terms) (same : m.tokens = n.tokens) : m.Counts terms := by
  intro term
  rw [same]
  exact h term

theorem addTerm (h : n.Counts terms) (added : String) :
    (n.addTerm added).Counts (terms ++ [added]) := by
  intro term
  rw [Node.addTerm, TextMap.get_insert, h added]
  by_cases here : added = term
  · subst here
    by_cases known : added ∈ terms
    · simp [known, UInt32.ofNat_add]
    · simp [known, List.count_eq_zero_of_not_mem known]
  · have other : ¬ term = added := fun same => here same.symm
    simp [here, other, h term, List.count_append]

theorem addTerms (h : n.Counts terms) (text : String) :
    (n.addTerms text).Counts (terms ++ Term.tokenize text) := by
  unfold Node.addTerms
  generalize Term.tokenize text = added
  induction added generalizing n terms with
  | nil => simpa using h
  | cons first rest ih => simpa using ih (h.addTerm first)

theorem foldl_addTerms (h : n.Counts terms) (texts : List String) :
    (texts.foldl Node.addTerms n).Counts (terms ++ texts.flatMap Term.tokenize) := by
  induction texts generalizing n terms with
  | nil => simpa using h
  | cons text rest ih => simpa using ih (h.addTerms text)

theorem contains_iff (h : n.Counts terms) {term : String} :
    n.tokens.contains term = true ↔ term ∈ terms := by
  rw [TextMap.contains_eq_isSome, h term]
  split <;> simp [*]

theorem keys_toFinset (h : n.Counts terms) : n.tokens.keys.toFinset = terms.toFinset := by
  ext term
  rw [List.mem_toFinset, List.mem_toFinset, ← h.contains_iff, TextMap.contains_eq_isSome,
    TextMap.keys, List.mem_map]
  constructor
  · rintro ⟨entry, he, rfl⟩
    rw [TextMap.mem_entries_iff.mp he]
    rfl
  · intro known
    obtain ⟨count, found⟩ := Option.isSome_iff_exists.mp known
    exact ⟨(term, count), TextMap.mem_entries_iff.mpr found, rfl⟩

theorem count_eq (h : n.Counts terms) (small : terms.length < 2 ^ 32) (term : String) :
    n.count term = terms.count term := by
  have short : terms.count term < 2 ^ 32 := Nat.lt_of_le_of_lt List.count_le_length small
  rw [Node.count, h term]
  split
  · exact UInt32.toNat_ofNat_of_lt' short
  · next unknown => exact (List.count_eq_zero_of_not_mem unknown).symm

theorem total_eq (h : n.Counts terms) (small : terms.length < 2 ^ 32) : n.total = terms.length := by
  rw [n.total_eq_sum, h.keys_toFinset, Finset.sum_congr rfl fun term _ => h.count_eq small term]
  exact List.sum_toFinset_count_eq_length terms

theorem total_lt (h : n.Counts terms) (small : terms.length < 2 ^ 32) : n.total < 2 ^ 32 :=
  h.total_eq small ▸ small

/-- Every term of the text adds at least one. -/
theorem distinct_le_score (h : n.Counts terms) (small : terms.length < 2 ^ 32) {text : String}
    (each : ∀ term ∈ Term.tokenize text, term ∈ terms) :
    (Term.distinct text).length ≤ n.score (Term.tokenize text).toFinset := by
  calc (Term.distinct text).length
      = (Term.tokenize text).toFinset.card := by
        rw [← Term.distinct_toFinset, List.toFinset_card_of_nodup (Term.distinct_nodup text)]
    _ = ∑ _term ∈ (Term.tokenize text).toFinset, 1 := Finset.card_eq_sum_ones _
    _ ≤ n.score (Term.tokenize text).toFinset := by
        apply Finset.sum_le_sum
        intro term ht
        rw [h.count_eq small]
        exact List.count_pos_iff.mpr (each term (List.mem_toFinset.mp ht))

end Node.Counts

/-- The text finds the node, on some page of its results and with this score at least. -/
def Graph.Finds (g : Graph) (text : String) (id : NodeId) (least : Nat) : Prop :=
  ∃ hits : List Hit,
    (∀ limit offset, 0 < limit → limit ≤ mostHits →
      g.search text limit offset = .ok ((hits.drop offset).take limit)) ∧
    ∃ hit ∈ hits, hit.id = id ∧ least ≤ hit.score.toNat

/-- A text whose terms are all counted in a node finds the node. -/
theorem Graph.finds_of_counts {g : Graph} (ids : (g.nodes.map (·.id)).Nodup)
    (counted : ∀ n ∈ g.nodes, n.total < 2 ^ 32) {n : Node} (hn : n ∈ g.nodes) {terms : List String}
    (h : n.Counts terms) (small : terms.length < 2 ^ 32) {text : String}
    (some : Term.tokenize text ≠ []) (each : ∀ term ∈ Term.tokenize text, term ∈ terms) :
    g.Finds text n.id (Term.distinct text).length := by
  obtain ⟨ranked, ranking, hits⟩ := ranking_eq_ok ids counted text
  obtain ⟨term, ht⟩ := List.exists_mem_of_ne_nil _ some
  have has : n.HasSome (Term.tokenize text).toFinset :=
    ⟨term, List.mem_toFinset.mpr ht, h.contains_iff.mpr (each term ht)⟩
  have listed : n ∈ ranked := ranking.perm.mem_iff.mpr (List.mem_filter.mpr ⟨hn, decide_eq_true has⟩)
  have word : (n.hit (Term.tokenize text).toFinset).score.toNat =
      n.score (Term.tokenize text).toFinset :=
    Node.hit_score_of_counted (counted n hn) _
  refine ⟨_, ?_, n.hit (Term.tokenize text).toFinset,
    List.mem_map_of_mem listed, rfl, ?_⟩
  · intro limit offset positive small
    rw [Graph.search, SearchIndex.query_eq hits, if_neg (Nat.ne_of_gt positive)]
    exact if_neg (Nat.not_lt.mpr small)
  · rw [word]
    exact h.distinct_le_score small each

namespace Record

variable {r : Record} {s : Symbol}

/-- Everything that goes into the node of a file: its path, the names of its symbols, and the terms of its
documentation, each of which is a text again. -/
def texts (r : Record) : List String := r.path :: (r.symbols.map (·.name) ++ r.docTerms)

def terms (r : Record) : List String := r.texts.flatMap Term.tokenize

theorem fileNode_counts (r : Record) : r.fileNode.Counts r.terms := by
  have path := (Node.Counts.new .file r.path).addTerms r.path
  have names := path.foldl_addTerms (r.symbols.map (·.name))
  have docs := names.foldl_addTerms r.docTerms
  rw [List.nil_append, List.append_assoc, ← List.flatMap_append] at docs
  exact docs.of_tokens rfl

theorem symbolNode_counts (r : Record) (s : Symbol) :
    (r.symbolNode s).Counts (Term.tokenize s.name) := by
  have name := (Node.Counts.new .symbol (r.symbolPath s)).addTerms s.name
  rw [List.nil_append] at name
  exact name.of_tokens rfl

theorem mem_terms_iff {term : String} :
    term ∈ r.terms ↔ ∃ text ∈ r.texts, term ∈ Term.tokenize text := by
  rw [terms, List.mem_flatMap]

theorem name_mem_texts (hs : s ∈ r.symbols) : s.name ∈ r.texts :=
  List.mem_cons_of_mem _ (List.mem_append_left _ (List.mem_map_of_mem hs))

theorem tokenize_length_le {text : String} (ht : text ∈ r.texts) :
    (Term.tokenize text).length ≤ r.terms.length := by
  rw [terms, List.length_flatMap]
  exact List.single_le_sum (fun _ _ => Nat.zero_le _) _ (List.mem_map_of_mem ht)

end Record

theorem outsideNode_counts (language : Language) (name : String) :
    (outsideNode language name).Counts (Term.tokenize name) := by
  have terms := (Node.Counts.new .external name).addTerms name
  rw [List.nil_append] at terms
  exact terms.of_tokens rfl

end SourceAtlas
