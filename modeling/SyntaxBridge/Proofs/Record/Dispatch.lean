import Mathlib.Data.List.Nodup
import SyntaxBridge.Proofs.Duplicates
import SyntaxBridge.Proofs.Entries
import SyntaxBridge.Record.Dispatch

/-!
# Handlers in the order of their definitions

A table holds under each key what was put there last (`lookup_ofList`), in the order in which the
keys came first (`keys_ofList`). A dispatcher is made through two tables, one by name and one by
type, so of all definitions the last one of each name is left, and of these the last one for a type
is chosen (`resolvesByOrder`).
-/

namespace SyntaxBridge.Record

/-! ## Tables -/

namespace Table

variable {κ ν : Type} [DecidableEq κ]

theorem lookup_cons_eq (key : κ) (entry : κ × ν) (table : Table κ ν) :
    (entry :: table).lookup key = if key = entry.1 then some entry.2 else table.lookup key := by
  obtain ⟨other, value⟩ := entry
  by_cases h : key = other
  · rw [h, List.lookup_cons_self, if_pos rfl]
  · rw [lookup_cons_of_ne h, if_neg h]

/-- A key that is not there yet is put behind the others. -/
theorem keys_put (key : κ) (value : ν) (table : Table κ ν) :
    (put key value table).map (·.1) =
      if key ∈ table.map (·.1) then table.map (·.1) else table.map (·.1) ++ [key] := by
  induction table with
  | nil => rfl
  | cons entry table ih =>
    rw [put]
    by_cases hkey : entry.1 = key
    · simp [hkey]
    · rw [if_neg hkey, List.map_cons, ih, List.map_cons]
      by_cases hmem : key ∈ table.map (·.1)
      · rw [if_pos hmem, if_pos (List.mem_cons_of_mem _ hmem)]
      · have hnone : key ∉ entry.1 :: table.map (·.1) := by
          rw [List.mem_cons, not_or]
          exact ⟨Ne.symm hkey, hmem⟩
        rw [if_neg hmem, if_neg hnone, List.cons_append]

/-- What is put under a key is found there, and under all other keys is what was there before. -/
theorem lookup_put (key : κ) (value : ν) (table : Table κ ν) (other : κ) :
    (put key value table).lookup other =
      if other = key then some value else table.lookup other := by
  induction table with
  | nil => exact lookup_cons_eq other (key, value) []
  | cons entry table ih =>
    rw [put]
    by_cases hkey : entry.1 = key
    · rw [if_pos hkey, lookup_cons_eq, lookup_cons_eq, hkey]
      by_cases h : other = key
      · rw [if_pos h, if_pos h]
      · rw [if_neg h, if_neg h, if_neg h]
    · rw [if_neg hkey, lookup_cons_eq, lookup_cons_eq, ih]
      by_cases h : other = entry.1
      · rw [if_pos h, if_pos h, if_neg (h ▸ hkey)]
      · rw [if_neg h, if_neg h]

theorem ofList_concat (entries : List (κ × ν)) (entry : κ × ν) :
    ofList (entries ++ [entry]) = put entry.1 entry.2 (ofList entries) :=
  List.foldl_concat ..

/-- The keys come in the order in which they were first put. -/
theorem keys_ofList (entries : List (κ × ν)) :
    (ofList entries).map (·.1) = (entries.map (·.1)).eraseDups := by
  induction entries using List.reverseRecOn with
  | nil => rfl
  | append_singleton entries entry ih =>
    rw [ofList_concat, keys_put, ih, List.map_append, List.map_singleton, eraseDups_concat]
    simp only [List.mem_eraseDups]

/-- The value that is put under a key last. -/
def lastOf (entries : List (κ × ν)) (key : κ) : Option ν :=
  (entries.filter (·.1 = key)).getLast?.map (·.2)

/-- What is put behind other entries counts before them. -/
theorem lastOf_append (entries others : List (κ × ν)) (key : κ) :
    lastOf (entries ++ others) key = (lastOf others key).or (lastOf entries key) := by
  rw [lastOf, List.filter_append, List.getLast?_append, Option.map_or]
  rfl

/-- Under each key is what was put there last. -/
theorem lookup_ofList (entries : List (κ × ν)) (key : κ) :
    (ofList entries).lookup key = lastOf entries key := by
  induction entries using List.reverseRecOn with
  | nil => rfl
  | append_singleton entries entry ih =>
    rw [ofList_concat, lookup_put, ih, lastOf_append]
    by_cases h : entry.1 = key
    · simp [lastOf, h]
    · simp [lastOf, h, Ne.symm h]

/-- The value under a key is the last one that is put there. -/
theorem lastOf_eq_some_iff {entries : List (κ × ν)} {key : κ} {value : ν} :
    lastOf entries key = some value ↔
      ∃ before later, entries = before ++ (key, value) :: later ∧
        ∀ newer ∈ later, newer.1 ≠ key := by
  constructor
  · intro h
    obtain ⟨entry, hentry, rfl⟩ := Option.map_eq_some_iff.mp h
    rw [List.getLast?_filter, List.find?_eq_some_iff_append] at hentry
    -- The entries are searched from behind, so what is passed over comes later.
    obtain ⟨hkey, later, before, hentries, hlater⟩ := hentry
    obtain rfl : entry.1 = key := by simpa using hkey
    refine ⟨before.reverse, later.reverse, ?_, ?_⟩
    · rw [List.reverse_eq_iff.mp hentries]
      simp
    · intro newer hnewer
      simpa using hlater newer (List.mem_reverse.mp hnewer)
  · rintro ⟨before, later, rfl, hlater⟩
    have hnone : lastOf later key = none := by
      rw [lastOf, List.filter_eq_nil_iff.mpr fun newer hnewer => by simpa using hlater newer hnewer]
      rfl
    rw [lastOf_append, ← List.singleton_append, lastOf_append, hnone]
    simp [lastOf]

/-- The values of different keys are what is found under them. -/
theorem values_eq {table : Table κ ν} (h : (table.map (·.1)).Nodup) :
    table.values = (table.map (·.1)).filterMap (List.lookup · table) := by
  induction table with
  | nil => rfl
  | cons entry table ih =>
    rw [List.map_cons, List.nodup_cons] at h
    have hfirst : List.lookup entry.1 (entry :: table) = some entry.2 := by
      rw [lookup_cons_eq, if_pos rfl]
    -- The first key is none of the others, so its entry is in nobody's way.
    have hrest : (table.map (·.1)).filterMap (List.lookup · (entry :: table)) = values table := by
      rw [ih h.2]
      refine List.filterMap_congr fun key hkey => ?_
      have hne : key ≠ entry.1 := fun heq => h.1 (heq ▸ hkey)
      rw [lookup_cons_eq, if_neg hne]
    rw [List.map_cons, List.filterMap_cons, hfirst, hrest]
    rfl

end Table

/-! ## Handlers -/

variable {τ α β : Type}

/-- The handlers that are left of some definitions: the last one of each name, in the order in which
the names were first defined. -/
def survivors (definitions : List (String × Handler τ α β)) : List (Handler τ α β) :=
  (definitions.map (·.1)).eraseDups.filterMap (Table.lastOf definitions)

variable {definitions : List (String × Handler τ α β)} {handler : Handler τ α β}

/-- The handlers that are left are those in the table by name. -/
theorem values_ofList (definitions : List (String × Handler τ α β)) :
    (Table.ofList definitions).values = survivors definitions := by
  have hkeys := Table.keys_ofList definitions
  have hnodup : ((Table.ofList definitions).map (·.1)).Nodup := hkeys ▸ nodup_eraseDups _
  rw [Table.values_eq hnodup, hkeys, survivors]
  exact List.filterMap_congr fun name _ => Table.lookup_ofList definitions name

/-- A handler is left just if its name is not defined again later. -/
theorem mem_survivors :
    handler ∈ survivors definitions ↔
      ∃ before name later, definitions = before ++ (name, handler) :: later ∧
        ∀ newer ∈ later, newer.1 ≠ name := by
  rw [survivors, List.mem_filterMap]
  constructor
  · rintro ⟨name, -, hlast⟩
    obtain ⟨before, later, hdefinitions, hlater⟩ := Table.lastOf_eq_some_iff.mp hlast
    exact ⟨before, name, later, hdefinitions, hlater⟩
  · rintro ⟨before, name, later, hdefinitions, hlater⟩
    refine ⟨name, ?_, Table.lastOf_eq_some_iff.mpr ⟨before, later, hdefinitions, hlater⟩⟩
    rw [List.mem_eraseDups, hdefinitions]
    simp

variable [DecidableEq τ]

/-- Whether a handler is for a type. -/
def Handler.isFor (handler : Handler τ α β) (type : τ) : Bool :=
  (handler.types.getD []).contains type

/-- A handler enters itself under its types and no others. -/
theorem lastOf_entries (handler : Handler τ α β) (type : τ) :
    Table.lastOf handler.entries type = if handler.isFor type then some handler else none := by
  have hentries : Table.lastOf handler.entries type =
      ((handler.types.getD []).filter (· = type)).getLast?.map fun _ => handler := by
    rw [Table.lastOf, Handler.entries, List.filter_map, List.getLast?_map, Option.map_map]
    rfl
  rw [hentries, Handler.isFor]
  cases hlast : ((handler.types.getD []).filter (· = type)).getLast? with
  | none =>
    have hnone : type ∉ handler.types.getD [] := by
      rw [List.getLast?_eq_none_iff, List.filter_eq_nil_iff] at hlast
      exact fun hmem => hlast type hmem (decide_eq_true rfl)
    rw [if_neg (List.contains_iff_mem.not.mpr hnone), Option.map_none]
  | some found =>
    obtain ⟨hmem, hfound⟩ := List.mem_filter.mp (List.mem_of_getLast? hlast)
    obtain rfl : found = type := of_decide_eq_true hfound
    rw [if_pos (List.contains_iff_mem.mpr hmem), Option.map_some]

/-- Of some handlers that enter themselves in turn, the last one for a type is found under it. -/
theorem lastOf_flatMap_entries (handlers : List (Handler τ α β)) (type : τ) :
    Table.lastOf (handlers.flatMap Handler.entries) type =
      (handlers.filter (·.isFor type)).getLast? := by
  induction handlers using List.reverseRecOn with
  | nil => rfl
  | append_singleton handlers handler ih =>
    rw [List.flatMap_append, List.flatMap_singleton, Table.lastOf_append, ih, lastOf_entries,
      List.filter_append, List.getLast?_append, List.filter_singleton]
    cases handler.isFor type <;> rfl

namespace Dispatcher

/-- How a dispatcher treats a value and what is passed along with it, given the definitions that it
is made of. -/
structure ResolvesByOrder (shown : String) (definitions : List (String × Handler τ α β))
    (visit : (α → τ) → α → List α → Except (CannotVisit τ) β) : Prop where
  /-- Of the handlers that are left, the last one for the type of the value is run. Without one the
  value is refused. -/
  chooses : ∀ typeOf value others, visit typeOf value others =
    match ((survivors definitions).filter (·.isFor (typeOf value))).getLast? with
    | some handler => .ok (handler.run value others)
    | none => .error { dispatcher := shown, type := typeOf value }
  /-- A value is refused just if all handlers for its type are overwritten by later definitions. -/
  refuses_iff : ∀ typeOf value others,
    visit typeOf value others = .error { dispatcher := shown, type := typeOf value } ↔
      ∀ before entry later, definitions = before ++ entry :: later →
        entry.2.isFor (typeOf value) → ∃ newer ∈ later, newer.1 = entry.1

/-- No handler for a type is left just if each one is overwritten. -/
theorem forall_survivors_iff (definitions : List (String × Handler τ α β)) (type : τ) :
    (∀ handler ∈ survivors definitions, ¬ handler.isFor type) ↔
      ∀ before entry later, definitions = before ++ entry :: later → entry.2.isFor type →
        ∃ newer ∈ later, newer.1 = entry.1 := by
  constructor
  · intro h before entry later hdefinitions hfor
    by_contra hnewer
    push Not at hnewer
    exact h entry.2 (mem_survivors.mpr ⟨before, entry.1, later, hdefinitions, hnewer⟩) hfor
  · intro h handler hhandler hfor
    obtain ⟨before, name, later, hdefinitions, hlater⟩ := mem_survivors.mp hhandler
    obtain ⟨newer, hnewer, hname⟩ := h before (name, handler) later hdefinitions hfor
    exact hlater newer hnewer hname

/-- The table by type holds the last handler for a type that is left. -/
theorem lookup_table (shown : String) (definitions : List (String × Handler τ α β)) (type : τ) :
    (ofDefinitions shown definitions).table.lookup type =
      ((survivors definitions).filter (·.isFor type)).getLast? := by
  rw [ofDefinitions, Table.lookup_ofList, values_ofList, lastOf_flatMap_entries]

/-- Definitions of handlers are resolved by their order, however names and types overlap. -/
theorem resolvesByOrder (shown : String) (definitions : List (String × Handler τ α β)) :
    ResolvesByOrder shown definitions (ofDefinitions shown definitions).visit where
  chooses typeOf value others := by
    rw [visit, lookup_table]
    rfl
  refuses_iff typeOf value others := by
    rw [visit, lookup_table, ← forall_survivors_iff]
    cases hlast : ((survivors definitions).filter (·.isFor (typeOf value))).getLast? with
    | none =>
      rw [List.getLast?_eq_none_iff, List.filter_eq_nil_iff] at hlast
      exact iff_of_true rfl hlast
    | some handler =>
      obtain ⟨hmem, hfor⟩ := List.mem_filter.mp (List.mem_of_getLast? hlast)
      exact iff_of_false nofun fun h => h handler hmem hfor

/-- A handler that is defined again keeps its place, so it does not come last. -/
example :
    let handler (type : Nat) (tag : String) : Handler Nat Nat String :=
      { types := some [type], run := fun _ _ => tag }
    (ofDefinitions "D" [("f", handler 0 "1"), ("g", handler 1 "2"), ("f", handler 1 "3")]).visit
      id 1 [] = .ok "2" :=
  rfl

end Dispatcher

end SyntaxBridge.Record
