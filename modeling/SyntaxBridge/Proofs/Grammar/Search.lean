import Mathlib
import SyntaxBridge.Proofs.Grammar.Graph

/-!
# The search, turn by turn

A search for a chain of references may also be run as a loop over a stack, which sets the nodes that
it has followed aside instead of taking them out of the graph. The same node may be put on the stack
many times, and a cycle puts nodes there that were followed before. `Search.turn` is one turn of the
loop, and `Search.Ends` says with which answer, and after how many turns, a search ends.

* `Search.remaining_turn`: each turn uses up one of the steps that are left, so no search goes on
  for ever (`Search.exists_ends`);
* `Search.canFind_turn`: a turn loses no chain to the target, although it never follows a node
  twice;
* `decidesPaths`: the loop ends with the answer of `Graph.reaches`, which is whether a path of one
  or more steps leads from one node to the other.
-/

namespace SyntaxBridge.Graph

open Relation

/-- A search that is under way. -/
structure Search where
  /-- The nodes that are still to be looked at, the one that was added last in front. -/
  pending : List String
  /-- The nodes whose successors have been added. -/
  visited : List String
  deriving DecidableEq, Repr

namespace Search

/-- A search starts with the successors of a node. -/
def start (graph : Graph) (node : String) : Search :=
  { pending := (graph.successors node).reverse, visited := [] }

/-- One turn of a search for a target: either the search goes on, or it has its answer. -/
def turn (graph : Graph) (target : String) (search : Search) : Search ⊕ Bool :=
  match search.pending with
  | [] => .inr false
  | node :: pending =>
    if node = target then .inr true
    else if search.visited.contains node then .inl { search with pending }
    else .inl {
      pending := (graph.successors node).reverse ++ pending
      visited := node :: search.visited }

/-- A search goes on for a number of turns and then ends with an answer. -/
inductive Ends (graph : Graph) (target : String) : Search → Nat → Bool → Prop
  /-- The search has its answer. -/
  | answered {search : Search} {answer : Bool} :
    turn graph target search = .inr answer → Ends graph target search 0 answer
  /-- The search goes on. -/
  | goesOn {search next : Search} {turns : Nat} {answer : Bool} :
    turn graph target search = .inl next → Ends graph target next turns answer →
    Ends graph target search (turns + 1) answer

end Search

/-! ## What is left of the graph -/

/-- The graph without some nodes. Other nodes may still lead to them. -/
def without (graph : Graph) (nodes : List String) : Graph :=
  graph.filter (!nodes.contains ·.1)

/-- The number of successors that the nodes of a graph have, counted with repetitions. -/
def edgeCount (graph : Graph) : Nat :=
  (graph.map (·.2.length)).sum

variable {graph other : Graph} {node target : String} {nodes : List String}

@[simp]
theorem without_nil : graph.without [] = graph :=
  List.filter_eq_self.mpr fun _ _ => rfl

theorem without_cons : graph.without (node :: nodes) = (graph.without nodes).remove node := by
  rw [without, without, remove, List.filter_filter]
  refine List.filter_congr fun entry _ => ?_
  rw [List.contains_cons, Bool.not_or]
  rfl

/-- Leaving nodes out takes the successors of those nodes away and no others. -/
theorem successors_without :
    (graph.without nodes).successors node = if node ∈ nodes then [] else graph.successors node := by
  induction nodes with
  | nil => simp
  | cons first nodes ih =>
    rw [without_cons]
    by_cases hfirst : node = first
    · rw [hfirst, successors_remove_self, if_pos List.mem_cons_self]
    · rw [successors_remove_of_ne hfirst, ih]
      simp only [List.mem_cons, hfirst, false_or]

/-- A node that is taken out takes its successors along. -/
theorem edgeCount_remove_add_le (graph : Graph) (node : String) :
    (graph.remove node).edgeCount + (graph.successors node).length ≤ graph.edgeCount := by
  induction graph with
  | nil => exact Nat.le_refl 0
  | cons entry graph ih =>
    obtain ⟨name, edges⟩ := entry
    rw [remove] at ih
    -- All entries of the node go, but its successors are those of the first one.
    by_cases hname : name = node
    · simp [edgeCount, remove, successors, hname] at ih ⊢
      omega
    · have hlookup : List.lookup node ((name, edges) :: graph) = graph.lookup node :=
        lookup_cons_of_ne (Ne.symm hname) edges graph
      simp [edgeCount, remove, successors, hlookup, hname] at ih ⊢
      omega

namespace Search

/-! ## Searches end -/

/-- The number of turns that a search has left at most: one for each pending node, and one for each
node that may still be added. -/
def remaining (graph : Graph) (search : Search) : Nat :=
  search.pending.length + (graph.without search.visited).edgeCount

variable {search next : Search} {turns : Nat} {answer : Bool}

/-- What the turn is that a search goes on after: the node in front is not the target, and either it
was followed before, or it is now. -/
theorem turn_eq_inl (h : turn graph target search = .inl next) :
    ∃ node pending, search.pending = node :: pending ∧ node ≠ target ∧
      (node ∈ search.visited ∧ next = ⟨pending, search.visited⟩ ∨
        node ∉ search.visited ∧
          next = ⟨(graph.successors node).reverse ++ pending, node :: search.visited⟩) := by
  unfold turn at h
  split at h
  next => cases h
  next node pending hpending =>
    split_ifs at h with htarget hvisited
    · cases h
      exact ⟨node, pending, hpending, htarget, .inl ⟨List.contains_iff_mem.mp hvisited, rfl⟩⟩
    · cases h
      exact ⟨node, pending, hpending, htarget, .inr ⟨by simpa using hvisited, rfl⟩⟩

/-- A turn uses up one of those that are left. -/
theorem remaining_turn (h : turn graph target search = .inl next) :
    next.remaining graph < search.remaining graph := by
  obtain ⟨node, pending, hpending, -, ⟨-, rfl⟩ | ⟨hnew, rfl⟩⟩ := turn_eq_inl h
  · simp [remaining, hpending]
  · -- The successors that are added are those that the node had in what was left of the graph.
    have hedges := edgeCount_remove_add_le (graph.without search.visited) node
    rw [successors_without, if_neg hnew, ← without_cons] at hedges
    simp only [remaining, hpending, List.length_append, List.length_reverse, List.length_cons]
    omega

/-- Every search ends, after as many turns as are left at most. -/
theorem exists_ends (graph : Graph) (target : String) (search : Search) :
    ∃ turns ≤ search.remaining graph, ∃ answer, Ends graph target search turns answer := by
  -- The induction is on the turns that are left, and not on the stack, which may grow.
  induction h : search.remaining graph using Nat.strong_induction_on generalizing search with
  | _ left ih =>
    subst h
    cases hturn : turn graph target search with
    | inr answer => exact ⟨0, Nat.zero_le _, answer, .answered hturn⟩
    | inl next =>
      have hless := remaining_turn hturn
      obtain ⟨turns, hturns, answer, hends⟩ := ih _ hless next rfl
      exact ⟨turns + 1, by omega, answer, .goesOn hturn hends⟩

/-! ## Searches find what there is -/

/-- A search can find its target: a chain leads there from a pending node, through nodes that were
not followed yet. -/
def CanFind (graph : Graph) (target : String) (search : Search) : Prop :=
  ∃ seed ∈ search.pending, ReflTransGen (graph.without search.visited).LeadsTo seed target

/-- A node that was followed before leads nowhere any more. -/
theorem eq_of_chain_of_mem_visited (hmem : node ∈ nodes)
    (hchain : ReflTransGen (graph.without nodes).LeadsTo node target) : node = target := by
  rcases hchain.cases_head with heq | ⟨other, hstep, -⟩
  · exact heq
  · rw [LeadsTo, successors_without, if_pos hmem] at hstep
    cases hstep

/-- A turn neither loses the target nor makes it up. -/
theorem canFind_turn (h : turn graph target search = .inl next) :
    CanFind graph target next ↔ CanFind graph target search := by
  obtain ⟨node, pending, hpending, htarget, ⟨hmem, rfl⟩ | ⟨hnew, rfl⟩⟩ := turn_eq_inl h
  · -- No chain starts at the node that is dropped.
    simp only [CanFind, hpending, List.mem_cons, exists_eq_or_imp]
    exact (or_iff_right fun hchain => htarget (eq_of_chain_of_mem_visited hmem hchain)).symm
  · have hnext : (graph.without search.visited).successors node = graph.successors node := by
      rw [successors_without, if_neg hnew]
    simp only [CanFind, hpending, without_cons]
    constructor
    · rintro ⟨seed, hseed, hchain⟩
      have hchain := ReflTransGen.mono (fun _ _ => leadsTo_of_leadsTo_remove) _ _ hchain
      rcases List.mem_append.mp hseed with hseed | hseed
      · rw [List.mem_reverse, ← hnext] at hseed
        exact ⟨node, List.mem_cons_self, .head hseed hchain⟩
      · exact ⟨seed, List.mem_cons_of_mem _ hseed, hchain⟩
    · rintro ⟨seed, hseed, hchain⟩
      -- After its last visit to the node the chain goes on from one of the added successors.
      obtain ⟨start, hstart, hchain⟩ := exists_chain_remove hseed hchain htarget
      rw [hnext] at hstart
      exact ⟨start, by simpa using hstart, hchain⟩

/-- The answer of a search is whether it could find the target from the start. -/
theorem Ends.answer_iff (h : Ends graph target search turns answer) :
    answer = true ↔ CanFind graph target search := by
  -- No turn changes whether the target can be found, so the last search settles it.
  induction h with
  | goesOn hturn _ ih => rw [ih, canFind_turn hturn]
  | @answered search answer hturn =>
    unfold turn at hturn
    split at hturn
    next hpending =>
      cases hturn
      simp [CanFind, hpending]
    next node pending hpending =>
      split_ifs at hturn with htarget
      cases hturn
      exact iff_of_true rfl ⟨target, by simp [hpending, htarget], .refl⟩

/-- A search that starts from a node ends with the answer whether that node reaches the target. -/
theorem Ends.answer_eq (h : Ends graph target (start graph node) turns answer) :
    answer = graph.reaches node target := by
  rw [Bool.eq_iff_iff, h.answer_iff, reaches_iff, TransGen.head'_iff]
  simp only [CanFind, start, List.mem_reverse, without_nil]
  exact Iff.rfl

end Search

/-! ## Paths -/

/-- The nodes of a path of one or more steps, without the one that it starts from. -/
def IsPath (graph : Graph) (start target : String) (nodes : List String) : Prop :=
  (start :: nodes).IsChain graph.LeadsTo ∧ nodes.getLast? = some target

/-- Paths are chains of one or more references. -/
theorem exists_isPath_iff {start : String} :
    (∃ nodes, graph.IsPath start target nodes) ↔ TransGen graph.LeadsTo start target := by
  constructor
  · rintro ⟨nodes, hchain, hlast⟩
    induction nodes generalizing start with
    | nil => cases hlast
    | cons next nodes ih =>
      obtain ⟨hstep, hchain⟩ := List.isChain_cons_cons.mp hchain
      cases nodes with
      | nil =>
        cases hlast
        exact .single hstep
      | cons after nodes => exact .head hstep (ih hchain (by simpa using hlast))
  · intro hchain
    induction hchain using TransGen.head_induction_on with
    | single hstep => exact ⟨[target], List.isChain_pair.mpr hstep, rfl⟩
    | @head start next hstep _ ih =>
      obtain ⟨nodes, hchain, hlast⟩ := ih
      have hne : nodes ≠ [] := by
        rintro rfl
        cases hlast
      refine ⟨next :: nodes, List.isChain_cons_cons.mpr ⟨hstep, hchain⟩, ?_⟩
      rw [List.getLast?_cons_of_ne_nil hne, hlast]

/-- A path can be shortened until it comes by no node twice. -/
theorem IsPath.exists_nodup {start : String} (h : graph.IsPath start target nodes) :
    ∃ simple, simple.Nodup ∧ graph.IsPath start target simple := by
  obtain ⟨hchain, hlast⟩ := h
  induction nodes generalizing start with
  | nil => cases hlast
  | cons next nodes ih =>
    obtain ⟨hstep, hchain⟩ := List.isChain_cons_cons.mp hchain
    by_cases hnodes : nodes = []
    · rw [hnodes] at hlast
      exact ⟨[next], List.nodup_singleton next, List.isChain_pair.mpr hstep, hlast⟩
    rw [List.getLast?_cons_of_ne_nil hnodes] at hlast
    obtain ⟨simple, hnodup, hsimple, hend⟩ := ih hchain hlast
    by_cases hmem : next ∈ simple
    · -- The path from the next node comes back to it, so only what follows is kept.
      obtain ⟨before, after, rfl⟩ := List.append_of_mem hmem
      refine ⟨next :: after, (List.nodup_append.mp hnodup).2.1, List.isChain_cons_cons.mpr
        ⟨hstep, (List.isChain_append.mp hsimple.tail).2.1⟩, ?_⟩
      rwa [List.getLast?_append_of_ne_nil _ (List.cons_ne_nil _ _)] at hend
    · have hne : simple ≠ [] := by
        rintro rfl
        cases hend
      refine ⟨next :: simple, List.nodup_cons.mpr ⟨hmem, hnodup⟩,
        List.isChain_cons_cons.mpr ⟨hstep, hsimple⟩, ?_⟩
      rw [List.getLast?_cons_of_ne_nil hne, hend]

/-- The search through a graph decides whether there are paths. -/
structure DecidesPaths (graph : Graph) : Prop where
  /-- The loop ends with the answer, after at most one turn for each successor of the first node and
  one for each successor of any node. -/
  ends : ∀ start target,
    ∃ turns ≤ (graph.successors start).length + graph.edgeCount,
      Search.Ends graph target (.start graph start) turns (graph.reaches start target)
  /-- It ends with no other answer. -/
  answer_eq : ∀ start target turns answer,
    Search.Ends graph target (.start graph start) turns answer → answer = graph.reaches start target
  /-- The answer is whether a path of one or more steps leads to the target. -/
  reaches_iff : ∀ start target,
    graph.reaches start target = true ↔ ∃ nodes, graph.IsPath start target nodes
  /-- A node that reaches itself lies on a cycle, and on one that comes by no node twice. -/
  cycle : ∀ node, graph.reaches node node = true →
    ∃ nodes, nodes.Nodup ∧ graph.IsPath node node nodes
  /-- The order and the repetitions of successors do not matter. -/
  reaches_congr : ∀ other : Graph,
    (∀ node next, next ∈ other.successors node ↔ next ∈ graph.successors node) →
    ∀ start target, other.reaches start target = graph.reaches start target

/-- Whatever the graph, the search through it decides whether there are paths. -/
theorem decidesPaths (graph : Graph) : DecidesPaths graph where
  ends start target := by
    obtain ⟨turns, hturns, answer, hends⟩ := Search.exists_ends graph target (.start graph start)
    obtain rfl := hends.answer_eq
    refine ⟨turns, ?_, hends⟩
    simpa [Search.remaining, Search.start] using hturns
  answer_eq _ _ _ _ hends := hends.answer_eq
  reaches_iff _ _ := Graph.reaches_iff.trans exists_isPath_iff.symm
  cycle _ hreaches := by
    obtain ⟨_, hpath⟩ := exists_isPath_iff.mpr (Graph.reaches_iff.mp hreaches)
    exact hpath.exists_nodup
  reaches_congr other hsame start target := by
    have hsteps : other.LeadsTo = graph.LeadsTo := by
      funext node next
      exact propext (hsame node next)
    rw [Bool.eq_iff_iff, Graph.reaches_iff, Graph.reaches_iff, hsteps]

end SyntaxBridge.Graph
