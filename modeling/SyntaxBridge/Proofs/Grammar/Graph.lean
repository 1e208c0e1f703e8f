import Mathlib.Logic.Relation
import SyntaxBridge.Grammar.Graph
import SyntaxBridge.Proofs.Entries

/-!
# Chains of references

The search through a graph of references against the chains of references there are. `LeadsTo` is a
single step from a node to one of its successors, and the main statements are

* `Graph.search_iff`: a search succeeds exactly if a chain leads from a pending node to the target;
* `Graph.reaches_iff`: one node reaches another exactly if a chain of one or more steps leads there.

A search takes the nodes that it follows out of the graph. That loses nothing: a chain that comes
back to such a node may as well start after its last visit (`Graph.exists_chain_remove`).
-/

namespace SyntaxBridge.Graph

open Relation

/-- A node leads to its successors. -/
def LeadsTo (graph : Graph) (node next : String) : Prop :=
  next ∈ graph.successors node

variable {graph : Graph} {node target : String}

/-- What is not a node of the graph leads nowhere. -/
theorem not_leadsTo_of_lookup_eq_none (h : graph.lookup node = none) (next : String) :
    ¬ graph.LeadsTo node next := by
  simp [LeadsTo, successors, h]

/-- Removing a node leaves the successors of the others alone. -/
theorem successors_remove_of_ne {other : String} (h : other ≠ node) :
    (graph.remove node).successors other = graph.successors other := by
  rw [successors, remove, lookup_filter (· != node), if_pos (bne_iff_ne.mpr h), successors]

/-- A removed node leads nowhere. -/
theorem successors_remove_self : (graph.remove node).successors node = [] := by
  rw [successors, remove, lookup_filter (· != node), if_neg (by simp), Option.getD_none]

/-- A step that is left after a node was removed was there before. -/
theorem leadsTo_of_leadsTo_remove {a b : String} (h : (graph.remove node).LeadsTo a b) :
    graph.LeadsTo a b := by
  by_cases ha : a = node
  · rw [LeadsTo, ha, successors_remove_self] at h
    cases h
  · rwa [LeadsTo, successors_remove_of_ne ha] at h

/-- A chain from one of several nodes can avoid one of them, if its successors may be started from
instead. -/
theorem exists_chain_remove {pending : List String} {seed : String}
    (hseed : seed ∈ node :: pending) (hchain : ReflTransGen graph.LeadsTo seed target)
    (htarget : node ≠ target) :
    ∃ start ∈ graph.successors node ++ pending,
      ReflTransGen (graph.remove node).LeadsTo start target := by
  -- The induction is on the end of the chain, so that the last visit to the node is met first.
  induction hchain with
  | refl =>
    have hmem : seed ∈ pending := (List.mem_cons.mp hseed).resolve_left (Ne.symm htarget)
    exact ⟨seed, List.mem_append_right _ hmem, .refl⟩
  | @tail last target _ hstep ih =>
    by_cases hlast : node = last
    · subst hlast
      exact ⟨target, List.mem_append_left _ hstep, .refl⟩
    · obtain ⟨start, hstart, hchain⟩ := ih hlast
      refine ⟨start, hstart, hchain.tail ?_⟩
      rwa [LeadsTo, successors_remove_of_ne (Ne.symm hlast)]

/-- A search succeeds exactly if a chain leads from one of the pending nodes to the target. -/
theorem search_iff {pending : List String} :
    search target graph pending = true ↔
      ∃ seed ∈ pending, ReflTransGen graph.LeadsTo seed target := by
  fun_induction search target graph pending with
  | case1 graph => simp
  | case2 graph pending => exact iff_of_true rfl ⟨target, List.mem_cons_self, .refl⟩
  | case3 graph node pending hne hlookup ih =>
    -- The node leads nowhere, so it may be dropped from the pending ones.
    have hstuck : ¬ ReflTransGen graph.LeadsTo node target := by
      intro hchain
      rcases hchain.cases_head with heq | ⟨next, hstep, -⟩
      · exact hne heq
      · exact not_leadsTo_of_lookup_eq_none hlookup next hstep
    simp [ih, hstuck]
  | case4 graph node pending hne next hlookup _ ih =>
    have hnext : graph.successors node = next := by rw [successors, hlookup, Option.getD_some]
    rw [ih]
    constructor
    · rintro ⟨start, hstart, hchain⟩
      have hchain := ReflTransGen.mono (fun _ _ => leadsTo_of_leadsTo_remove) _ _ hchain
      rcases List.mem_append.mp hstart with hstart | hstart
      · rw [← hnext] at hstart
        exact ⟨node, List.mem_cons_self, .head hstart hchain⟩
      · exact ⟨start, List.mem_cons_of_mem _ hstart, hchain⟩
    · rintro ⟨seed, hseed, hchain⟩
      rw [← hnext]
      exact exists_chain_remove hseed hchain hne

/-- One node reaches another exactly if a chain of one or more steps leads there. -/
theorem reaches_iff {start : String} :
    graph.reaches start target = true ↔ TransGen graph.LeadsTo start target := by
  rw [reaches, search_iff, TransGen.head'_iff]
  exact Iff.rfl

end SyntaxBridge.Graph
