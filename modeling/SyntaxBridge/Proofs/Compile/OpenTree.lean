import Mathlib
import SyntaxBridge.Proofs.Compile.AllOrReported
import SyntaxBridge.Proofs.Compile.SourceStart
import SyntaxBridge.Proofs.Files.Tree

/-!
# Runs on open trees

In a tree where the paths of both files are open, whatever they lead to, writing the files cannot
fail, and a run that finds a grammar ends well (`exists_outcome_eq_ok`).

This is also so where the two paths lead to one place, or to a device. But then the files do not
both hold their texts in the end: the texts differ (`not_reads_of_place?_eq`), and a device keeps
none (`not_reads_of_isSpecial`). And where a path leads to the grammar, the grammar is gone
(`not_holdsGrammar_of_place?_eq`).
-/

namespace SyntaxBridge

open Swift (SourceFile)

variable {tree after : FileTree} {path directory module text : String} {extra : ExtraCases}
  {policy : BoxPolicy} {log log' : Log} {file : SourceFile} {sources : List SourceFile}
  {turns : List (FileTree × SourceFile)}

/-! ## Open paths -/

namespace FileTree

/-- Whether whatever stands at a place can be written, and read again if it is a file. -/
def isOpen : Option Node → Bool
  | none | some .device => true
  | some (.file _ access) => access.readable && access.writable
  | some .directory | some (.link _) => false

/-- A path leads to a file that may be read and written, to a place for one, or to a device. -/
def IsOpen (tree : FileTree) (path : String) : Prop :=
  ∃ place node, tree.locate path = .ok (place, node) ∧ Path.endsInSlash path = false ∧
    isOpen node = true

instance (tree : FileTree) (path : String) : Decidable (tree.IsOpen path) :=
  match h : tree.locate path with
  | .ok (place, node) =>
    decidable_of_iff (Path.endsInSlash path = false ∧ isOpen node = true)
      ⟨fun hopen => ⟨place, node, h, hopen⟩, fun ⟨_, _, h', hopen⟩ => by
        cases h.symm.trans h'
        exact hopen⟩
  | .error _ => .isFalse fun ⟨_, _, h', _⟩ => by cases h.symm.trans h'

/-- A file that is put in the place of another one or of nothing leaves open paths open, if it may
be read and written itself. -/
theorem IsOpen.put {place : List String} (h : tree.IsOpen path)
    (hslot : isSlot (tree.node? place) = true) (bytes : List UInt8) :
    (tree.put place (.file bytes)).IsOpen path := by
  obtain ⟨found, node, hlocate, hslash, hopen⟩ := h
  have hdiffer := differAt_put hslot bytes {}
  -- The path leads where it led, to what was there or to a file that was put in its place.
  obtain ⟨node', hlocate', rfl | ⟨hused, hused'⟩⟩ := exists_locate_eq hdiffer hlocate
  · exact ⟨found, node', hlocate', hslash, hopen⟩
  refine ⟨found, node', hlocate', hslash, ?_⟩
  rw [← node?_of_locate hlocate' hused']
  by_cases hplace : found = place
  · rw [hplace, node?_put_of_isSlot hslot]
    rfl
  · rwa [hdiffer.node?_eq found hplace, node?_of_locate hlocate hused]

/-- Writing under an open path does not fail, and leaves open paths open. -/
theorem IsOpen.exists_write (h : tree.IsOpen path) (bytes : List UInt8) :
    ∃ after, tree.write path bytes = .ok after ∧
      ∀ other, tree.IsOpen other → after.IsOpen other := by
  obtain ⟨place, node, hlocate, hslash, hopen⟩ := h
  have hput (hslot : isSlot node = true)
      (hwrite : tree.write path bytes = .ok (tree.put place (.file bytes))) :
      ∃ after, tree.write path bytes = .ok after ∧
        ∀ other, tree.IsOpen other → after.IsOpen other := by
    rw [← node?_of_locate hlocate hslot] at hslot
    exact ⟨_, hwrite, fun _ hother => hother.put hslot bytes⟩
  rcases node with _ | ⟨content, ⟨readable, writable⟩⟩ | _ | _ | _
  · exact hput rfl (by simp [write, hlocate, hslash, bind, Except.bind, pure, Except.pure])
  · obtain ⟨rfl, rfl⟩ : readable = true ∧ writable = true := by simpa [isOpen] using hopen
    exact hput rfl (by simp [write, hlocate, hslash, bind, Except.bind, pure, Except.pure])
  · cases hopen
  · cases hopen
  -- A device takes what is written, and the tree stays as it is.
  · refine ⟨tree, ?_, fun _ hother => hother⟩
    simp [write, hlocate, hslash, bind, Except.bind, pure, Except.pure]

/-- A file under an open path can be read. -/
theorem IsOpen.exists_read (h : tree.IsOpen path) (hfile : tree.isFile path = true) :
    ∃ bytes, tree.read path = .ok bytes := by
  obtain ⟨place, node, hlocate, hslash, hopen⟩ := h
  cases node with
  | none =>
    rw [isFile, find, hlocate] at hfile
    cases hfile
  | some node =>
    rw [read, find_of_locate hlocate hslash]
    rcases node with ⟨content, ⟨readable, writable⟩⟩ | _ | _ | _
    · obtain ⟨rfl, rfl⟩ : readable = true ∧ writable = true := by simpa [isOpen] using hopen
      exact ⟨content, rfl⟩
    · cases hopen
    · cases hopen
    · exact ⟨[], rfl⟩

/-- An open path holds no null character. -/
theorem IsOpen.null_notMem (h : tree.IsOpen path) : '\x00' ∉ path.toList := by
  intro hnull
  obtain ⟨place, node, hlocate, -⟩ := h
  rw [locate, if_pos (by simpa using hnull)] at hlocate
  cases hlocate

end FileTree

/-- A tree is not changed when a file is compared. -/
theorem fileHolds_run_state (tree : FileTree) (path text : String) :
    ((fileHolds FileTree.system path text).run tree).2 = tree := by
  cases hfile : tree.isFile path with
  | false => rw [fileHolds_run_of_not_isFile FileTree.laws text hfile]
  | true =>
    rw [fileHolds_run_of_isFile FileTree.laws text hfile]
    rfl

/-- A file whose path is open does not fail. -/
theorem fails_eq_false_of_isOpen (h : tree.IsOpen (Path.join directory file.name)) :
    FileTree.system.fails directory (tree, file) = false := by
  have hstate := fileHolds_run_state tree (Path.join directory file.name) file.text
  rw [FileSystem.fails]
  rcases hcompare : (fileHolds FileTree.system (Path.join directory file.name) file.text).run tree
    with ⟨e | _ | _, middle⟩
  · cases hfile : tree.isFile (Path.join directory file.name) with
    | false =>
      rw [fileHolds_run_of_not_isFile FileTree.laws file.text hfile] at hcompare
      cases hcompare
    | true =>
      obtain ⟨bytes, hread⟩ := h.exists_read hfile
      rw [fileHolds_run_of_isFile FileTree.laws file.text hfile, FileTree.system_read_run, hread]
        at hcompare
      cases hcompare
  · obtain rfl : middle = tree := by rwa [hcompare] at hstate
    obtain ⟨after, hwrite, -⟩ := h.exists_write (FileTree.system.bytesOf file.text)
    dsimp only
    rw [FileTree.system_write_run, hwrite]
    rfl
  · rfl

/-- Open paths stay open when a file is attempted whose path is open. -/
theorem Attempt.isOpen (h : Attempt FileTree.system directory file tree log after log')
    (hopen : tree.IsOpen (Path.join directory file.name)) (hpath : tree.IsOpen path) :
    after.IsOpen path := by
  have hstate := fileHolds_run_state tree (Path.join directory file.name) file.text
  cases h with
  | unchanged h | unread h =>
    obtain rfl : after = tree := by rwa [h] at hstate
    exact hpath
  | @written middle _ bytes h _ hwrite =>
    obtain rfl : middle = tree := by rwa [h] at hstate
    obtain ⟨written, hwritten, hkept⟩ := hopen.exists_write bytes
    rw [FileTree.system_write_run, hwritten] at hwrite
    obtain rfl : written = after := congrArg Prod.snd hwrite
    exact hkept path hpath
  | @refused middle _ e h hwrite =>
    obtain rfl : middle = tree := by rwa [h] at hstate
    obtain ⟨written, hwritten, -⟩ := hopen.exists_write (FileTree.system.bytesOf file.text)
    rw [FileTree.system_write_run, hwritten] at hwrite
    cases hwrite

/-- Files whose paths are open do not fail. -/
theorem Attempts.fails_eq_false (h : Attempts FileTree.system directory tree log turns after log')
    (hopen : ∀ path ∈ turnPaths directory turns, tree.IsOpen path) :
    ∀ turn ∈ turns, FileTree.system.fails directory turn = false := by
  induction h with
  | nil => exact List.forall_mem_nil _
  | cons hfirst _ ih =>
    obtain ⟨hfile, hfiles⟩ := List.forall_mem_cons.mp hopen
    exact List.forall_mem_cons.mpr ⟨fails_eq_false_of_isOpen hfile,
      ih fun path hpath => hfirst.isOpen hfile (hfiles path hpath)⟩

/-- A run ends well if it finds a grammar and the paths of both files are open. -/
theorem exists_outcome_eq_ok {grammar : Grammar} (hname : module ≠ "")
    (h : HoldsGrammar FileTree.system tree path extra policy grammar)
    (hopen : ∀ path ∈ outputPaths directory module, tree.IsOpen path) (verbose : Bool) :
    ∃ sources, (compileOn FileTree.system tree path directory module extra policy verbose).outcome =
      .ok sources := by
  obtain ⟨sources, hsources⟩ := exists_generateSources grammar (Path.baseName path) hname
  obtain ⟨text, htext, hgrammar⟩ := h
  have hnull : ∀ file ∈ sources, '\x00' ∉ (Path.join directory file.name).toList := by
    rw [← paths_of_generateSources hsources, List.forall_mem_map] at hopen
    exact fun file hfile => (hopen file hfile).null_notMem
  obtain ⟨turns, after, log', hrun, hturns, hattempts⟩ := exists_attempts_of_outcome_eq_ok
    (outcome_forM_writeOutput_on FileTree.laws (parsedLog verbose path text grammar) tree hnull
      fun _ _ => ⟨_, rfl⟩)
  have hfails := hattempts.fails_eq_false (turnPaths_of_generateSources hsources hturns ▸ hopen)
  -- No file fails, so there is no error that would halt the run.
  have herrors : log'.errors = 0 := by
    rw [hattempts.errors_eq, errors_parsedLog, Nat.zero_add, List.countP_eq_zero]
    exact fun turn hturn => Bool.eq_false_iff.mp (hfails turn hturn)
  refine ⟨sources, ?_⟩
  rw [compileOn_eq htext hgrammar hsources, FileTree.system_read_run, writeOutputs_on hrun,
    if_pos herrors]

/-! ## Files that get lost -/

/-- A run that ends well leaves no grammar where it wrote a file. -/
theorem not_holdsGrammar_of_place?_eq {σ ι : Type} {files : FileSystem (StateM σ)}
    {view : σ → FileView ι} {s : σ} {verbose : Bool} (laws : files.Laws view)
    (hapart : (view s).Apart (outputPaths directory module)) {other : String}
    (hother : other ∈ outputPaths directory module)
    (hplace : (view s).place? path = (view s).place? other)
    (h : (compileOn files s path directory module extra policy verbose).outcome = .ok sources)
    (grammar : Grammar) :
    ¬ HoldsGrammar files (compileOn files s path directory module extra policy verbose).state path
      extra policy grammar := by
  rintro ⟨text, htext, hgrammar⟩
  obtain ⟨_, _, _, -, hsources, -⟩ := exists_attempts_of_compileOn_eq_ok h
  rw [← paths_of_generateSources hsources] at hother
  obtain ⟨file, hfile, rfl⟩ := List.mem_map.mp hother
  -- What is read as the grammar is the source that was written.
  have hframe := frame_of_outcome_eq_ok laws h
  rw [← hframe.place?_eq, ← hframe.place?_eq] at hplace
  have hwritten := (holdsText_of_outcome_eq_ok laws hapart h file hfile).of_place?_eq hplace
  obtain rfl : file.unifiedText = text := (laws.reads_of_holdsText hwritten).unique htext
  obtain ⟨rules, hparse, -⟩ := Outcome.bind_eq_ok_iff.mp hgrammar
  exact parseGrammar_ne_ok_of_unifiedText hsources hfile rules hparse

/-- Where both paths lead to one place, not both files can be read there. -/
theorem not_reads_of_place?_eq {σ ι : Type} {files : FileSystem (StateM σ)} {view : σ → FileView ι}
    {s : σ} {grammar : Grammar} {grammarName : String} (laws : files.Laws view)
    (hsources : Swift.generateSources grammar module grammarName = some sources)
    (hmodule : module.toList.head? ≠ some 'A')
    (hspecial : ¬ (view s).IsSpecial (Path.join directory (Swift.bridgeFile module)))
    (hplace : (view s).place? (Path.join directory Swift.abstractSyntaxFile) =
      (view s).place? (Path.join directory (Swift.bridgeFile module))) :
    ¬ ∀ file ∈ sources, files.Reads s (Path.join directory file.name) file.unifiedText := by
  intro hreads
  obtain ⟨first, second, rfl, hfirst, hsecond, hne⟩ := exists_sources_eq hsources hmodule
  rw [← hsecond] at hspecial
  rw [← hfirst, ← hsecond] at hplace
  have hholds := (laws.reads_iff hspecial).mp (hreads second (by simp))
  have hsame := laws.reads_of_holdsText (hholds.of_place?_eq hplace)
  exact hne ((hreads first (by simp)).unique hsame)

/-- Nothing is read from a device, so no source is. -/
theorem not_reads_of_isSpecial {grammar : Grammar} {grammarName : String}
    (hsources : Swift.generateSources grammar module grammarName = some sources)
    (hpath : path ∈ outputPaths directory module) (hspecial : tree.view.IsSpecial path) :
    ¬ ∀ file ∈ sources,
      FileTree.system.Reads tree (Path.join directory file.name) file.unifiedText := by
  intro hreads
  rw [← paths_of_generateSources hsources] at hpath
  obtain ⟨file, hfile, rfl⟩ := List.mem_map.mp hpath
  obtain ⟨bytes, hread, hdecode⟩ := hreads file hfile
  rw [FileTree.system_read_run] at hread
  obtain rfl : bytes = [] := FileTree.read_of_isSpecial hspecial hread
  refine parseGrammar_ne_ok_of_unifiedText hsources hfile [] ?_
  rw [← Except.ok.inj hdecode]
  decide +kernel

/-- A grammar with one rule. -/
def singleRule : String :=
  "EInt. Exp ::= Integer ;\n"

/-- A tree with that grammar in a file, and perhaps something else. -/
def singleRuleTree (name : String) (others : List (List String × Node) := []) : FileTree :=
  { entries := ([name], .file (Text.encode singleRule.toList)) :: others }

/-- A file with that grammar holds it. -/
theorem holdsGrammar_singleRule
    (hread : tree.read path = .ok (Text.encode singleRule.toList)) :
    ∃ grammar, HoldsGrammar FileTree.system tree path [] .all grammar := by
  have hdecode : decodeFile (Text.encode singleRule.toList) = .ok singleRule := by decide +kernel
  have hparse : parseGrammar singleRule =
      .ok [.constructor ⟨"EInt", "Exp", ["Integer"], .number 1⟩] := by decide +kernel
  have hgrammar : grammarOf singleRule [] .all = .ok {
      rules := [.constructor ⟨"EInt", "Exp", ["Integer"], .number 1⟩]
      groups := [⟨"Exp", .alternatives [⟨"EInt", "Exp", ["Integer"], .number 1⟩], true, []⟩]
      listTypes := []
      entrypoints := ["Exp"] } := by
    rw [grammarOf, hparse]
    cbv
  exact ⟨_, _, ⟨_, hread, hdecode⟩, hgrammar⟩

/-- A run on a tree that asks for nothing in particular. -/
def FileTree.compiled (tree : FileTree) (path : String) (verbose : Bool) :
    RunEnd FileTree (List SourceFile) :=
  compileOn FileTree.system tree path "." "CGrammar" [] .all verbose

/-- A run on that grammar ends well if the paths of both files are open. -/
theorem exists_outcome_eq_ok_singleRule
    (hread : tree.read path = .ok (Text.encode singleRule.toList))
    (hopen : ∀ path ∈ outputPaths "." "CGrammar", tree.IsOpen path) (verbose : Bool) :
    ∃ sources, (tree.compiled path verbose).outcome = .ok sources := by
  obtain ⟨grammar, hgrammar⟩ := holdsGrammar_singleRule hread
  exact exists_outcome_eq_ok (by decide) hgrammar hopen verbose

/-- A tree with the grammar in the place of the first file. -/
def overwrittenTree : FileTree :=
  singleRuleTree "AbstractSyntax.swift"

/-- There, a run ends well and leaves no grammar. -/
theorem exists_not_holdsGrammar_overwrittenTree (verbose : Bool) :
    ∃ sources, (overwrittenTree.compiled "AbstractSyntax.swift" verbose).outcome = .ok sources ∧
      ∀ grammar, ¬ HoldsGrammar FileTree.system
        (overwrittenTree.compiled "AbstractSyntax.swift" verbose).state "AbstractSyntax.swift" []
        .all grammar := by
  have hread : overwrittenTree.read "AbstractSyntax.swift" =
      .ok (Text.encode singleRule.toList) := by
    decide +kernel
  obtain ⟨sources, h⟩ := exists_outcome_eq_ok_singleRule hread (by decide +kernel) verbose
  have hapart : overwrittenTree.view.Apart (outputPaths "." "CGrammar") := by
    refine FileTree.apart_of_locate
      [(["AbstractSyntax.swift"], some (.file (Text.encode singleRule.toList))),
        (["CGrammarToSwiftBridge.swift"], none)] ?_ ?_ ?_
    all_goals decide +kernel
  exact ⟨sources, h, not_holdsGrammar_of_place?_eq FileTree.laws hapart List.mem_cons_self
    (by decide +kernel) h⟩

/-- A tree with something else in the place of the first file. -/
def occupiedTree (node : Node) : FileTree :=
  singleRuleTree "Calc.cf" [(["AbstractSyntax.swift"], node)]

/-- With a link to the other file, or with a device, a run ends well, and yet not both files can be
read afterwards. -/
theorem exists_not_reads_occupiedTree {node : Node}
    (hnode : node ∈ [.link "CGrammarToSwiftBridge.swift", .device]) (verbose : Bool) :
    ∃ sources, ((occupiedTree node).compiled "Calc.cf" verbose).outcome = .ok sources ∧
      ¬ ∀ file ∈ sources,
        FileTree.system.Reads ((occupiedTree node).compiled "Calc.cf" verbose).state
          (Path.join "." file.name) file.unifiedText := by
  have hopen : (occupiedTree node).read "Calc.cf" = .ok (Text.encode singleRule.toList) ∧
      ∀ path ∈ outputPaths "." "CGrammar", (occupiedTree node).IsOpen path := by
    revert node
    decide +kernel
  obtain ⟨sources, h⟩ := exists_outcome_eq_ok_singleRule hopen.1 hopen.2 verbose
  obtain ⟨_, _, _, -, hsources, -⟩ := exists_attempts_of_compileOn_eq_ok h
  have hframe := frame_of_outcome_eq_ok FileTree.laws h
  refine ⟨sources, h, ?_⟩
  simp only [List.mem_cons, List.not_mem_nil, or_false] at hnode
  rcases hnode with rfl | rfl
  · have hlocate : (occupiedTree (.link "CGrammarToSwiftBridge.swift")).locate
        (Path.join "." (Swift.bridgeFile "CGrammar")) =
          .ok (["CGrammarToSwiftBridge.swift"], none) := by
      decide +kernel
    refine not_reads_of_place?_eq FileTree.laws hsources (by decide) ?_ ?_
    · exact mt (hframe.isSpecial_iff _).mp (FileTree.not_isSpecial_of_locate hlocate (.inl rfl))
    · refine (hframe.place?_eq _).trans (.trans ?_ (hframe.place?_eq _).symm)
      decide +kernel
  · refine not_reads_of_isSpecial hsources List.mem_cons_self ((hframe.isSpecial_iff _).mpr ?_)
    exact ⟨["AbstractSyntax.swift"], .device, by decide +kernel, by decide, rfl⟩

end SyntaxBridge
