import Mathlib.Data.List.Basic
import SyntaxBridge.Proofs.Entries
import SyntaxBridge.Proofs.Files.Laws
import SyntaxBridge.Proofs.Outcome

/-!
# Trees of files are file systems

A tree is seen through `node?`, and putting something at a place changes what stands there and
nothing else (`node?_put`). Writing a file only ever changes a place that has a file or nothing
(`DifferAt`). Such a place is never on the way of a path, so all paths lead where they led
(`exists_follow_eq`), and the laws of file systems hold (`laws`).
-/

namespace SyntaxBridge.FileTree

variable {tree before after : FileTree} {path : String} {directory names place : List String}
  {node : Option Node}

/-! ## Putting something at a place -/

/-- Replacing the entries of a place keeps those of the others. -/
private theorem lookup_replace (entries : List (List String × Node)) (place other : List String)
    (node : Node) :
    (entries.map fun entry => if entry.1 == place then (place, node) else entry).lookup other =
      if other = place then (entries.lookup place).map fun _ => node
      else entries.lookup other := by
  have hvalues : (entries.map fun entry => if entry.1 == place then (place, node) else entry) =
      entries.map fun entry => (entry.1, if entry.1 = place then node else entry.2) := by
    refine List.map_congr_left fun entry _ => ?_
    by_cases hkey : entry.1 = place
    · simp [hkey]
    · simp [hkey]
  rw [hvalues, lookup_map fun key old => if key = place then node else old]
  by_cases hother : other = place
  · simp [hother]
  · simp [hother]

@[simp]
theorem workingDirectory_put (tree : FileTree) (place : List String) (node : Node) :
    (tree.put place node).workingDirectory = tree.workingDirectory := by
  rw [put]
  split <;> rfl

/-- What is put at a place stands there, and elsewhere stands what stood there before. -/
theorem node?_put (tree : FileTree) (place other : List String) (node : Node) :
    (tree.put place node).node? other =
      if other.isPrefixOf tree.workingDirectory then some .directory
      else if other = place then some node
      else tree.node? other := by
  obtain ⟨workingDirectory, entries⟩ := tree
  by_cases habove : other.isPrefixOf workingDirectory = true
  · rw [node?, workingDirectory_put, if_pos habove, if_pos habove]
  rw [node?, workingDirectory_put, if_neg habove, if_neg habove, node?, if_neg habove, put]
  cases hold : entries.lookup place with
  | none =>
    have hunused : ¬ entries.any (·.1 == place) = true := by
      rw [List.any_eq_true]
      rintro ⟨entry, hentry, hkey⟩
      have hne := List.lookup_eq_none_iff.mp hold entry hentry
      simp [eq_of_beq hkey] at hne
    rw [if_neg hunused, List.lookup_append]
    by_cases hother : other = place
    · simp [hother, hold]
    · rw [lookup_cons_of_ne hother, if_neg hother, List.lookup_nil, Option.or_none]
  | some old =>
    have hused : entries.any (·.1 == place) = true := by
      obtain ⟨front, back, rfl, -⟩ := List.lookup_eq_some_iff.mp hold
      simp
    rw [if_pos hused, lookup_replace, hold]
    rfl

/-! ## Following names -/

/-- Whether a place has a file or nothing, so that a file may be put there. -/
def isSlot : Option Node → Bool
  | none | some (.file ..) => true
  | some _ => false

/-- Two trees that differ at one place, and have a file or nothing there. -/
structure DifferAt (place : List String) (before after : FileTree) : Prop where
  workingDirectory_eq : after.workingDirectory = before.workingDirectory
  node?_eq : ∀ other, other ≠ place → after.node? other = before.node? other
  isSlot_before : isSlot (before.node? place) = true
  isSlot_after : isSlot (after.node? place) = true

theorem DifferAt.symm (h : DifferAt place before after) : DifferAt place after before :=
  ⟨h.workingDirectory_eq.symm, fun other hother => (h.node?_eq other hother).symm, h.isSlot_after,
    h.isSlot_before⟩

/-- Where there is neither a file nor nothing, two such trees do not differ. -/
theorem DifferAt.node?_eq_of_isSlot (h : DifferAt place before after) (other : List String)
    (hother : isSlot (before.node? other) = false) : after.node? other = before.node? other := by
  refine h.node?_eq other fun heq => ?_
  rw [heq, h.isSlot_before] at hother
  cases hother

/-- Putting a file where there is one or nothing. -/
theorem differAt_put (h : isSlot (tree.node? place) = true) (bytes : List UInt8) (access : Access) :
    DifferAt place tree (tree.put place (.file bytes access)) where
  workingDirectory_eq := workingDirectory_put ..
  node?_eq other hother := by
    rw [node?_put, if_neg hother]
    split
    next habove => rw [node?, if_pos habove]
    next => rfl
  isSlot_before := h
  isSlot_after := by
    have hplace : ¬ place.isPrefixOf tree.workingDirectory = true := by
      intro habove
      rw [node?, if_pos habove] at h
      cases h
    rw [node?_put, if_neg hplace, if_pos rfl]
    rfl

/-- What a file may be put in the place of stands there. -/
theorem node?_put_of_isSlot (h : isSlot (tree.node? place) = true) (node : Node) :
    (tree.put place node).node? place = some node := by
  have hplace : ¬ place.isPrefixOf tree.workingDirectory = true := by
    intro habove
    rw [node?, if_pos habove] at h
    cases h
  rw [node?_put, if_neg hplace, if_pos rfl]

/-- The last name leads to its place, unless a directory or a link is there. -/
theorem walk_last {name : String} (hdot : name ≠ ".") (habove : name ≠ "..")
    (hlength : ¬ Path.maxNameLength < name.utf8ByteSize)
    (hdirectory : tree.node? (directory ++ [name]) ≠ some .directory)
    (hlink : ∀ target, tree.node? (directory ++ [name]) ≠ some (.link target)) :
    tree.walk directory [name] =
      .ok (.place (directory ++ [name]) (tree.node? (directory ++ [name]))) := by
  rw [walk, if_neg hdot, if_neg habove, if_neg hlength]
  dsimp only
  rcases hnode : tree.node? (directory ++ [name]) with _ | ⟨_ | _ | target | _⟩
  · rfl
  · rfl
  · exact absurd hnode hdirectory
  · exact absurd hnode (hlink target)
  · rfl

/-- Two things that names lead to are the same, but for a file in the place of another one or of
nothing. -/
inductive Alike : Reached → Reached → Prop
  | refl (reached : Reached) : Alike reached reached
  | slot {place : List String} {node node' : Option Node} (h : isSlot node = true)
      (h' : isSlot node' = true) : Alike (.place place node) (.place place node')

/-- Names lead to the same in trees that differ in a file. -/
theorem exists_walk_eq {reached : Reached} (h : DifferAt place before after)
    (hwalk : before.walk directory names = .ok reached) :
    ∃ reached', after.walk directory names = .ok reached' ∧ Alike reached reached' := by
  fun_induction walk before directory names with
  | case1 => exact ⟨_, hwalk, .refl _⟩
  | case2 directory names ih =>
    rw [walk, if_pos rfl]
    exact ih hwalk
  | case3 directory names hdot ih =>
    rw [walk, if_neg hdot, if_pos rfl]
    exact ih hwalk
  | case4 => cases hwalk
  -- A directory on the way is in both trees, and so is a link.
  | case5 directory name names hdot habove hlength next hnext ih =>
    rw [walk, if_neg hdot, if_neg habove, if_neg hlength]
    dsimp only
    rw [h.node?_eq_of_isSlot next (by rw [hnext]; rfl), hnext]
    exact ih hwalk
  | case6 directory name names hdot habove hlength next target hnext =>
    rw [walk, if_neg hdot, if_neg habove, if_neg hlength]
    dsimp only
    rw [h.node?_eq_of_isSlot next (by rw [hnext]; rfl), hnext]
    exact ⟨_, hwalk, .refl _⟩
  -- Only where the last name leads may the trees differ.
  | case7 directory name hdot habove hlength next hdirectory hlink =>
    cases hwalk
    by_cases hplace : next = place
    · have hslot := h.isSlot_after
      rw [← hplace] at hslot
      refine ⟨_, walk_last hdot habove hlength (fun hnode => ?_) fun target hnode => ?_,
        .slot (hplace ▸ h.isSlot_before) hslot⟩
      · rw [hnode] at hslot
        cases hslot
      · rw [hnode] at hslot
        cases hslot
    · have hnode := h.node?_eq next hplace
      refine ⟨_, walk_last hdot habove hlength (hnode ▸ hdirectory) (hnode ▸ hlink), ?_⟩
      rw [hnode]
      exact .refl _
  | case8 => cases hwalk
  | case9 => cases hwalk

/-- Names lead to the same place through all links in trees that differ in a file. What stands there
is the same, or a file in the place of another one or of nothing. -/
theorem exists_follow_eq {links : Nat} {found : List String} (h : DifferAt place before after)
    (hfollow : before.follow links directory names = .ok (found, node)) :
    ∃ node', after.follow links directory names = .ok (found, node') ∧
      (node' = node ∨ isSlot node = true ∧ isSlot node' = true) := by
  fun_induction follow before links directory names with
  | case1 => cases hfollow
  | case2 links directory names _ _ hwalk =>
    obtain ⟨reached, hwalk', halike⟩ := exists_walk_eq h hwalk
    cases hfollow
    rw [follow, hwalk']
    cases halike with
    | refl => exact ⟨_, rfl, .inl rfl⟩
    | slot hslot hslot' => exact ⟨_, rfl, .inr ⟨hslot, hslot'⟩⟩
  | case3 => cases hfollow
  | case4 directory names _ _ _ hwalk links ih =>
    -- The other tree has the same link, and the names behind it are followed from there.
    obtain ⟨reached, hwalk', halike⟩ := exists_walk_eq h hwalk
    cases halike
    rw [follow, hwalk']
    exact ih hfollow

/-- Where names lead to a file or to nothing, that stands at their place. -/
theorem node?_of_walk (hwalk : tree.walk directory names = .ok (.place place node))
    (hslot : isSlot node = true) : tree.node? place = node := by
  fun_induction walk tree directory names with
  | case1 =>
    cases hwalk
    cases hslot
  | case2 _ _ ih => exact ih hwalk
  | case3 _ _ _ ih => exact ih hwalk
  | case5 _ _ _ _ _ _ _ _ ih => exact ih hwalk
  | case7 =>
    obtain ⟨hplace, hnode⟩ := Reached.place.inj (Except.ok.inj hwalk)
    rw [← hnode, ← hplace]
  | case4 | case6 | case8 | case9 => cases hwalk

theorem node?_of_follow {links : Nat}
    (hfollow : tree.follow links directory names = .ok (place, node))
    (hslot : isSlot node = true) : tree.node? place = node := by
  fun_induction follow tree links directory names with
  | case2 _ _ _ _ _ hwalk =>
    cases hfollow
    exact node?_of_walk hwalk hslot
  | case4 _ _ _ _ _ _ _ ih => exact ih hfollow
  | case1 | case3 => cases hfollow

theorem node?_of_locate (hlocate : tree.locate path = .ok (place, node))
    (hslot : isSlot node = true) : tree.node? place = node := by
  unfold locate at hlocate
  split_ifs at hlocate
  exact node?_of_follow hlocate hslot

/-- Paths lead to the same places in trees that differ in a file. -/
theorem exists_locate_eq {found : List String} (h : DifferAt place before after)
    (hlocate : before.locate path = .ok (found, node)) :
    ∃ node', after.locate path = .ok (found, node') ∧
      (node' = node ∨ isSlot node = true ∧ isSlot node' = true) := by
  unfold locate at hlocate ⊢
  split_ifs at hlocate ⊢
  rw [h.workingDirectory_eq]
  exact exists_follow_eq h hlocate

/-! ## The view of a tree -/

/-- The place for a file that a path leads to. -/
def place? (tree : FileTree) (path : String) : Option (List String) :=
  match tree.locate path with
  | .ok (place, node) => if isSlot node && !Path.endsInSlash path then some place else none
  | .error _ => none

/-- Whether whatever stands at a place does not keep its readers out. -/
def isReadable : Option Node → Bool
  | some (.file _ access) => access.readable
  | _ => true

/-- The files of a tree. -/
def view (tree : FileTree) : FileView (List String) where
  place? := tree.place?
  IsSpecial path := ∃ place node, tree.locate path = .ok (place, some node) ∧
    node ≠ .directory ∧ isSlot (some node) = false
  content? place :=
    match tree.node? place with
    | some (.file bytes _) => some bytes
    | _ => none
  IsReadable place := isReadable (tree.node? place) = true

theorem place?_eq_some_iff :
    tree.place? path = some place ↔
      tree.locate path = .ok (place, tree.node? place) ∧ isSlot (tree.node? place) = true ∧
        Path.endsInSlash path = false := by
  rw [place?]
  constructor
  · intro h
    rcases hlocate : tree.locate path with e | ⟨found, node⟩
    · rw [hlocate] at h
      cases h
    · rw [hlocate] at h
      simp only [Option.ite_none_right_eq_some, Bool.and_eq_true, Bool.not_eq_true',
        Option.some.injEq] at h
      obtain ⟨⟨hslot, hslash⟩, rfl⟩ := h
      obtain rfl := node?_of_locate hlocate hslot
      exact ⟨rfl, hslot, hslash⟩
  · rintro ⟨hlocate, hslot, hslash⟩
    rw [hlocate]
    simp [hslot, hslash]

/-- A file that is put in the place of another one or of nothing changes no other file. -/
theorem DifferAt.frame (h : DifferAt place before after) :
    FileView.Frame (· = place) before.view after.view where
  place?_eq path := by
    -- Each of the trees may be the earlier one.
    have hsub {before after : FileTree} (h : DifferAt place before after) {found : List String}
        (hfound : before.place? path = some found) : after.place? path = some found := by
      obtain ⟨hlocate, hslot, hslash⟩ := place?_eq_some_iff.mp hfound
      obtain ⟨node', hlocate', hnode'⟩ := exists_locate_eq h hlocate
      have hslot' : isSlot node' = true := by
        rcases hnode' with rfl | ⟨-, hslot'⟩
        · exact hslot
        · exact hslot'
      obtain rfl := node?_of_locate hlocate' hslot'
      exact place?_eq_some_iff.mpr ⟨hlocate', hslot', hslash⟩
    exact Option.ext fun found => ⟨hsub h.symm, hsub h⟩
  isSpecial_iff path := by
    have hsub {before after : FileTree} (h : DifferAt place before after) :
        before.view.IsSpecial path → after.view.IsSpecial path := by
      rintro ⟨found, node, hlocate, hdirectory, hslot⟩
      obtain ⟨node', hlocate', rfl | ⟨hslot', -⟩⟩ := exists_locate_eq h hlocate
      · exact ⟨found, node, hlocate', hdirectory, hslot⟩
      · rw [hslot] at hslot'
        cases hslot'
    exact ⟨hsub h.symm, hsub h⟩
  content?_eq other hother := by
    unfold view
    dsimp only
    rw [h.node?_eq other hother]
  isReadable_iff other hother := by
    unfold view
    dsimp only
    rw [h.node?_eq other hother]

/-- A path to a file, to nothing or to a directory is not special. -/
theorem not_isSpecial_of_locate (hlocate : tree.locate path = .ok (place, node))
    (hnode : isSlot node = true ∨ node = some .directory) : ¬ tree.view.IsSpecial path := by
  rintro ⟨_, special, hlocate', hdirectory, hslot⟩
  obtain rfl : node = some special :=
    (Prod.mk.inj (Except.ok.inj (hlocate.symm.trans hlocate'))).2
  rcases hnode with hused | hused
  · rw [hslot] at hused
    cases hused
  · exact hdirectory (Option.some.inj hused)

/-- Paths whose places are different, with files or nothing there, or directories, are apart. -/
theorem apart_of_locate {paths : List String} (found : List (List String × Option Node))
    (hfound : paths.map tree.locate = found.map .ok)
    (hslots : ∀ entry ∈ found, isSlot entry.2 = true ∨ entry.2 = some .directory)
    (hnodup : (found.map Prod.fst).Nodup) : tree.view.Apart paths where
  not_isSpecial path hpath := by
    have hmem : tree.locate path ∈ found.map .ok := hfound ▸ List.mem_map_of_mem hpath
    obtain ⟨entry, hentry, hlocate⟩ := List.mem_map.mp hmem
    exact not_isSpecial_of_locate hlocate.symm (hslots entry hentry)
  isReadable_new path _ place hplace hcontent := by
    obtain ⟨-, hslot, -⟩ := place?_eq_some_iff.mp hplace
    unfold view at hcontent ⊢
    dsimp only at hcontent ⊢
    rcases hnode : tree.node? place with _ | ⟨_ | _ | _ | _⟩
    · rfl
    · rw [hnode] at hcontent
      cases hcontent
    all_goals
      rw [hnode] at hslot
      cases hslot
  pairwise := by
    have hpairwise : (paths.map tree.locate).Pairwise fun x y =>
        ∀ entry other, x = .ok entry → y = .ok other → entry.1 ≠ other.1 := by
      rw [hfound, List.pairwise_map]
      refine (List.pairwise_map.mp hnodup).imp ?_
      rintro entry other hne _ _ ⟨⟩ ⟨⟩
      exact hne
    refine (List.pairwise_map.mp hpairwise).imp fun {path other} hapart place hplace hother => ?_
    exact hapart _ _ (place?_eq_some_iff.mp hplace).1 (place?_eq_some_iff.mp hother).1 rfl

/-- Such paths are ordinary if files that are there may be read. -/
theorem ordinary_of_locate {paths : List String} (found : List (List String × Option Node))
    (hfound : paths.map tree.locate = found.map .ok)
    (hslots : ∀ entry ∈ found, isSlot entry.2 = true ∨ entry.2 = some .directory)
    (hnodup : (found.map Prod.fst).Nodup)
    (hreadable : ∀ entry ∈ found, isReadable entry.2 = true) : tree.view.Ordinary paths where
  toApart := apart_of_locate found hfound hslots hnodup
  isReadable path hpath place hplace _ := by
    have hmem : tree.locate path ∈ found.map .ok := hfound ▸ List.mem_map_of_mem hpath
    rw [(place?_eq_some_iff.mp hplace).1] at hmem
    obtain ⟨entry, hentry, heq⟩ := List.mem_map.mp hmem
    obtain rfl : entry = (place, tree.node? place) := Except.ok.inj heq
    exact hreadable _ hentry

/-! ## Access -/

theorem system_read_run (tree : FileTree) (path : String) :
    (system.read path).run tree = (tree.read path, tree) := rfl

theorem system_isFile_run (tree : FileTree) (path : String) :
    (system.isFile path).run tree = (tree.isFile path, tree) := rfl

/-- Writing replaces the tree, unless it fails. -/
theorem system_write_run (tree : FileTree) (path : String) (bytes : List UInt8) :
    (system.write path bytes).run tree =
      match tree.write path bytes with
      | .ok after => (.ok (), after)
      | .error e => (.error e, tree) := by
  change (match tree.write path bytes with
    | .ok after => (do set after; return .ok () : StateM FileTree (Except FileError Unit))
    | .error e => return .error e).run tree = _
  cases tree.write path bytes <;> rfl

/-- A path that does not end in a slash finds what stands where it leads to. -/
theorem find_of_locate {node : Node} (hlocate : tree.locate path = .ok (place, some node))
    (hslash : Path.endsInSlash path = false) : tree.find path = .ok node := by
  rw [find, hlocate]
  cases node <;> simp [hslash, bind, Except.bind, pure, Except.pure]

/-- What is found under a path and is no directory stands where the path leads to. -/
theorem exists_locate_of_find {node : Node} (hfind : tree.find path = .ok node)
    (hdirectory : node ≠ .directory) :
    ∃ place, tree.locate path = .ok (place, some node) ∧ Path.endsInSlash path = false := by
  rcases hlocate : tree.locate path with e | ⟨place, _ | found⟩
  · rw [find, hlocate] at hfind
    cases hfind
  · rw [find, hlocate] at hfind
    cases hfind
  by_cases hfound : found = .directory
  · subst hfound
    rw [find, hlocate] at hfind
    cases hfind
    exact absurd rfl hdirectory
  cases hslash : Path.endsInSlash path with
  | false =>
    rw [find_of_locate hlocate hslash] at hfind
    cases hfind
    exact ⟨place, rfl, rfl⟩
  | true =>
    rw [find, hlocate] at hfind
    cases found <;> simp [hslash, bind, Except.bind, throw, throwThe, MonadExceptOf.throw] at *

/-- A path to a place for a file finds the file that is there. -/
theorem find_of_place? (h : tree.place? path = some place) :
    tree.find path =
      match tree.node? place with
      | some node => .ok node
      | none => .error .notFound := by
  obtain ⟨hlocate, -, hslash⟩ := place?_eq_some_iff.mp h
  cases hnode : tree.node? place with
  | none =>
    rw [find, hlocate, hnode]
    rfl
  | some node => exact find_of_locate (hnode ▸ hlocate) hslash

/-- What is found under a path is a file, or special, or a directory. -/
theorem place?_isSome_or_isSpecial {node : Node} (hfind : tree.find path = .ok node)
    (hdirectory : node ≠ .directory) :
    (tree.place? path).isSome ∨ tree.view.IsSpecial path := by
  obtain ⟨place, hlocate, hslash⟩ := exists_locate_of_find hfind hdirectory
  cases hslot : isSlot (some node) with
  | false => exact .inr ⟨place, node, hlocate, hdirectory, hslot⟩
  | true =>
    rw [place?, hlocate]
    simp [hslot, hslash]

/-- There is a file at a place exactly if a path to it leads to a file. -/
theorem isFile_iff (h : tree.place? path = some place) :
    tree.isFile path = true ↔ tree.view.content? place ≠ none := by
  obtain ⟨-, hslot, -⟩ := place?_eq_some_iff.mp h
  rw [isFile, find_of_place? h]
  unfold view
  dsimp only
  rcases hnode : tree.node? place with _ | ⟨_ | _ | _ | _⟩
  · simp
  · simp
  all_goals
    rw [hnode] at hslot
    cases hslot

/-- A file is read if it may be, as what it holds. -/
theorem read_iff {bytes : List UInt8} (h : tree.place? path = some place) :
    tree.read path = .ok bytes ↔
      tree.view.content? place = some bytes ∧ tree.view.IsReadable place := by
  obtain ⟨-, hslot, -⟩ := place?_eq_some_iff.mp h
  rw [read, find_of_place? h]
  unfold view
  dsimp only
  rcases hnode : tree.node? place with _ | ⟨content, ⟨readable, writable⟩⟩ | _ | _ | _
  · simp [bind, Except.bind]
  · cases readable <;>
      simp [isReadable, bind, Except.bind, pure, Except.pure, throw, throwThe, MonadExceptOf.throw]
  all_goals
    rw [hnode] at hslot
    cases hslot

/-- What can be read is found. -/
theorem exists_find_of_read {bytes : List UInt8} (h : tree.read path = .ok bytes) :
    ∃ node, tree.find path = .ok node ∧ node ≠ .directory := by
  rw [read] at h
  rcases hfind : tree.find path with e | _ | _ | _ | _
  · rw [hfind] at h
    cases h
  · exact ⟨_, rfl, by simp⟩
  · rw [hfind] at h
    cases h
  · exact ⟨_, rfl, by simp⟩
  · exact ⟨_, rfl, by simp⟩

/-- What is read from something special is nothing. -/
theorem read_of_isSpecial {bytes : List UInt8} (h : tree.view.IsSpecial path)
    (hread : tree.read path = .ok bytes) : bytes = [] := by
  obtain ⟨node, hfind, hdirectory⟩ := exists_find_of_read hread
  obtain ⟨place, hlocate, -⟩ := exists_locate_of_find hfind hdirectory
  obtain ⟨_, special, hlocate', -, hslot⟩ := h
  rw [hlocate] at hlocate'
  obtain rfl : node = special := Option.some.inj (Prod.mk.inj (Except.ok.inj hlocate')).2
  rw [read, hfind] at hread
  cases node with
  | file => cases hslot
  | directory => exact absurd rfl hdirectory
  | link | device => exact (Except.ok.inj hread).symm

/-- What writing comes to, if it does not fail: a file is put at the place of the path, which may be
read as before, or the path is special and the tree stays as it is. -/
theorem write_cases {bytes : List UInt8} (h : tree.write path bytes = .ok after) :
    (∃ place access, tree.place? path = some place ∧ after = tree.put place (.file bytes access) ∧
      access.readable = isReadable (tree.node? place)) ∨
    tree.view.IsSpecial path ∧ after = tree := by
  rcases hlocate : tree.locate path with e | ⟨place, node⟩
  · rw [write, hlocate] at h
    cases h
  by_cases hbarred : node = some .directory ∨ Path.endsInSlash path = true
  · simp [write, hlocate, hbarred, bind, Except.bind, throw, throwThe, MonadExceptOf.throw] at h
  obtain ⟨hdirectory, hslash⟩ := not_or.mp hbarred
  have hplace (hslot : isSlot node = true) : tree.place? path = some place := by
    rw [place?, hlocate]
    simp [hslot, hslash]
  rcases node with _ | ⟨content, ⟨readable, writable⟩⟩ | _ | target | _
  · have hafter : tree.put place (.file bytes) = after := by
      simpa [write, hlocate, hslash, bind, Except.bind, pure, Except.pure] using h
    exact .inl ⟨place, {}, hplace rfl, hafter.symm, by rw [node?_of_locate hlocate rfl]; rfl⟩
  · cases writable with
    | false =>
      simp [write, hlocate, hslash, bind, Except.bind, throw, throwThe, MonadExceptOf.throw] at h
    | true =>
      have hafter : tree.put place (.file bytes ⟨readable, true⟩) = after := by
        simpa [write, hlocate, hslash, bind, Except.bind, pure, Except.pure] using h
      exact .inl ⟨place, ⟨readable, true⟩, hplace rfl, hafter.symm, by
        rw [node?_of_locate hlocate rfl]; rfl⟩
  · exact absurd rfl hdirectory
  all_goals
    refine .inr ⟨⟨place, _, hlocate, by simp, rfl⟩, ?_⟩
    simpa [write, hlocate, hslash, bind, Except.bind, pure, Except.pure, eq_comm] using h

/-- Writing under a path to a place for a file puts the file there. -/
theorem exists_put_of_write {bytes : List UInt8} (hplace : tree.place? path = some place)
    (h : tree.write path bytes = .ok after) :
    ∃ access, after = tree.put place (.file bytes access) ∧
      access.readable = isReadable (tree.node? place) := by
  rcases write_cases h with ⟨other, access, hother, hafter, hreadable⟩ | ⟨hspecial, -⟩
  · obtain rfl : place = other := Option.some.inj (hplace.symm.trans hother)
    exact ⟨access, hafter, hreadable⟩
  · obtain ⟨other, node, hlocate, -, hnone⟩ := hspecial
    obtain ⟨hlocate', hslot, -⟩ := place?_eq_some_iff.mp hplace
    obtain ⟨-, hnode⟩ := Prod.mk.inj (Except.ok.inj (hlocate.symm.trans hlocate'))
    rw [← hnode, hnone] at hslot
    cases hslot

/-- A write that succeeds is one of the tree. -/
theorem write_of_run {bytes : List UInt8} (h : ((system.write path bytes).run tree).1 = .ok ()) :
    tree.write path bytes = .ok ((system.write path bytes).run tree).2 := by
  rw [system_write_run] at h ⊢
  cases hwrite : tree.write path bytes with
  | error e =>
    rw [hwrite] at h
    cases h
  | ok after => rfl

/-! ## Null characters -/

/-- An outcome is no error for a null character in a path. -/
abbrev NotNull {α : Type} (x : Except FileError α) : Prop :=
  Outcome.ErrorsHave (· ≠ .nullCharacter) x

theorem notNull_walk (tree : FileTree) (directory names : List String) :
    NotNull (tree.walk directory names) := by
  fun_induction walk tree directory names with
  | case1 | case6 | case7 => exact Outcome.errorsHave_ok _
  | case2 | case3 | case5 => assumption
  | case4 | case8 | case9 => exact Outcome.errorsHave_error.mpr (by decide)

theorem notNull_follow (tree : FileTree) (links : Nat) (directory names : List String) :
    NotNull (tree.follow links directory names) := by
  fun_induction follow tree links directory names with
  | case1 _ directory names e hwalk =>
    exact Outcome.errorsHave_error.mpr (notNull_walk tree directory names e hwalk)
  | case2 => exact Outcome.errorsHave_ok _
  | case3 => exact Outcome.errorsHave_error.mpr (by decide)
  | case4 => assumption

theorem notNull_locate (hpath : '\x00' ∉ path.toList) : NotNull (tree.locate path) := by
  unfold locate
  rw [if_neg (by simpa using hpath)]
  split_ifs
  · exact Outcome.errorsHave_error.mpr (by decide)
  · exact Outcome.errorsHave_error.mpr (by decide)
  · exact notNull_follow tree _ _ _

theorem notNull_read (hpath : '\x00' ∉ path.toList) : NotNull (tree.read path) := by
  have hfind : NotNull (tree.find path) := by
    refine (notNull_locate hpath).bind fun found _ => ?_
    rcases found with ⟨_, _ | _ | _ | _ | _⟩
    · exact Outcome.errorsHave_error.mpr (by decide)
    all_goals
      dsimp only
      first
      | exact Outcome.errorsHave_ok _
      | split_ifs
        · exact Outcome.errorsHave_error.mpr (by decide)
        · exact Outcome.errorsHave_ok _
  refine hfind.bind fun node _ => ?_
  cases node with
  | file bytes access =>
    dsimp only
    split_ifs
    · exact Outcome.errorsHave_ok _
    · exact Outcome.errorsHave_error.mpr (by decide)
  | directory => exact Outcome.errorsHave_error.mpr (by decide)
  | link | device => exact Outcome.errorsHave_ok _

theorem notNull_write (hpath : '\x00' ∉ path.toList) (bytes : List UInt8) :
    NotNull (tree.write path bytes) := by
  refine (notNull_locate hpath).bind fun found _ => ?_
  obtain ⟨place, node⟩ := found
  dsimp only
  split_ifs
  · exact Outcome.errorsHave_error.mpr (by decide)
  rcases node with _ | ⟨_, access⟩ | _ | _ | _
  case some.file =>
    dsimp only
    split_ifs
    · exact Outcome.errorsHave_ok _
    · exact Outcome.errorsHave_error.mpr (by decide)
  all_goals exact Outcome.errorsHave_ok _

/-- The path of a directory holds no null character. -/
theorem null_notMem_of_isDirectory (h : tree.isDirectory path = true) :
    '\x00' ∉ path.toList := by
  intro hnull
  have hlocate : tree.locate path = .error .nullCharacter := by
    rw [locate, if_pos (by simpa using hnull)]
  simp [isDirectory, find, hlocate, bind, Except.bind] at h

/-! ## The laws -/

/-- A tree is a file system. -/
theorem laws : system.Laws view where
  isFile_state _ _ := rfl
  isDirectory_state _ _ := rfl
  view_read _ _ := rfl
  isFile_iff _ _ _ h := isFile_iff h
  isFile_target tree path h := by
    rw [system_isFile_run, isFile] at h
    rcases hfind : tree.find path with e | _ | _ | _ | _
    · rw [hfind] at h
      cases h
    · exact place?_isSome_or_isSpecial hfind (by simp)
    all_goals
      rw [hfind] at h
      cases h
  read_iff _ _ _ _ h := read_iff h
  read_target _ _ _ h := by
    obtain ⟨_, hfind, hdirectory⟩ := exists_find_of_read h
    exact place?_isSome_or_isSpecial hfind hdirectory
  frame_write tree path bytes := by
    rw [system_write_run]
    cases hwrite : tree.write path bytes with
    | error e => exact .refl _ _
    | ok after =>
      rcases write_cases hwrite with ⟨place, access, hplace, rfl, -⟩ | ⟨-, rfl⟩
      · refine (differAt_put (place?_eq_some_iff.mp hplace).2.1 bytes access).frame.mono ?_
        rintro _ rfl
        exact hplace
      · exact .refl _ _
  content?_write tree path bytes place h hok := by
    obtain ⟨access, hafter, -⟩ := exists_put_of_write h (write_of_run hok)
    rw [hafter, view]
    dsimp only
    rw [node?_put_of_isSlot (place?_eq_some_iff.mp h).2.1]
  isReadable_write tree path bytes place h hok hold := by
    obtain ⟨access, hafter, hreadable⟩ := exists_put_of_write h (write_of_run hok)
    rw [hafter, view]
    dsimp only
    rw [node?_put_of_isSlot (place?_eq_some_iff.mp h).2.1]
    exact hreadable.trans hold
  write_target _ _ _ hok := by
    rcases write_cases (write_of_run hok) with ⟨place, _, hplace, -⟩ | ⟨hspecial, -⟩
    · exact .inl (Option.isSome_of_mem hplace)
    · exact .inr hspecial
  read_ne_null tree path hnull h := notNull_read hnull _ h rfl
  write_ne_null tree path bytes hnull h := by
    rw [system_write_run] at h
    cases hwrite : tree.write path bytes with
    | error e =>
      rw [hwrite] at h
      cases h
      exact notNull_write hnull bytes _ hwrite rfl
    | ok after =>
      rw [hwrite] at h
      cases h
  null_notMem _ _ h := null_notMem_of_isDirectory h
  encode_eq _ _ h := (Except.ok.inj h).symm

end SyntaxBridge.FileTree
