import ApiSurface.Files.Inventory
import ApiSurface.Proofs.Files.Names
import ApiSurface.Proofs.Outcome
import Mathlib.Data.List.Nodup

/-!
# Inventories of directories and of archives

The class entries of some files are those that are not left out, with the class entries of the
archives among them. Taking stock ends with all class entries, each once, or with a name that two
of them have.

A directory is searched by its tree, an archive by its list of entries. They take the same stock if
the entries of the archive are the files of the directory.

Main definitions: `filesBelow`, `Node.Proper`, `Content.Readable`, `classEntries`, `TakesStock`.
Main statements: `shows_directoryFinds`, `shows_archiveFinds`, `takesStock_inOrder`,
`directory_archive_agree`.
-/
namespace ApiSurface

theorem Program.Stage.runFrom_ofExcept {α : Type} (result : Except Fault α)
    (events : List Event) :
    runFrom (Stage.ofExcept result) events = (result.mapError .analysis, events) := rfl

namespace Files
open Program (Failure Stage)
open Text (segments)

/-! ## Trees and their files -/

mutual

/-- The files in an entry of a directory, by their paths below the directory. -/
def filesIn (name : String) : Node → List (String × Content)
  | .file content => [(name, content)]
  | .directory entries =>
    (filesBelow entries).map fun (path, content) => (name ++ "/" ++ path, content)

/-- The files below a directory, by their paths below it. -/
def filesBelow : List (String × Node) → List (String × Content)
  | [] => []
  | (name, node) :: rest => filesIn name node ++ filesBelow rest

end

/-- Names could be those of a file system, without backslashes; and no file is named by the ending
of classes or archives alone. -/
inductive Node.Proper : Node → Prop
  | file (content : Content) : Proper (.file content)
  | directory {entries : List (String × Node)} (distinct : (entries.map (·.1)).Nodup)
      (names : ∀ e ∈ entries, '/' ∉ e.1.toList ∧ '\\' ∉ e.1.toList)
      (named : ∀ name content, (name, .file content) ∈ entries → name ≠ ".class" ∧ name ≠ ".jar")
      (below : ∀ e ∈ entries, e.2.Proper) : Proper (.directory entries)

/-- An archive is looked into: it is not left out, and named as one. -/
def IsLookedInto (path : String) : Prop := isSkipped path = false ∧ (before? ".jar" path).isSome

/-- The content is an archive whose entries have distinct names, and so are the archives in it that
are looked into. -/
inductive Content.Readable : Content → Prop
  | archive {entries : List (String × Content)} (distinct : (entries.map (·.1)).Nodup)
      (nested : ∀ e ∈ entries, IsLookedInto e.1 → e.2.Readable) : Readable (.archive entries)

/-- All archives among some files that are looked into can be read. -/
def JarsReadable (files : List (String × Content)) : Prop :=
  ∀ f ∈ files, IsLookedInto f.1 → f.2.Readable

mutual

/-- The class entries of some files, at every level: those that are not left out, and those of the
archives that are looked into. -/
def classEntries : List (String × Content) → List ClassUnit
  | [] => []
  | (path, content) :: rest =>
    (if isSkipped path then []
      else if (before? ".jar" path).isSome then archivedEntries content
      else if (before? ".class" path).isSome then [⟨className path, content.data⟩]
      else []) ++ classEntries rest

/-- The class entries of an archive; what is none has none. -/
def archivedEntries : Content → List ClassUnit
  | .bytes _ => []
  | .archive entries => classEntries entries

end

theorem classEntries_append (files others : List (String × Content)) :
    classEntries (files ++ others) = classEntries files ++ classEntries others := by
  induction files with
  | nil => simp [classEntries]
  | cons f files ih =>
    rw [List.cons_append, classEntries, classEntries, ih, List.append_assoc]

theorem classEntries_eq_flatMap (files : List (String × Content)) :
    classEntries files = files.flatMap fun f => classEntries [f] := by
  induction files with
  | nil => rfl
  | cons f files ih => rw [← List.singleton_append, classEntries_append, ih]; rfl

theorem filesBelow_eq_flatMap (entries : List (String × Node)) :
    filesBelow entries = entries.flatMap fun e => filesIn e.1 e.2 := by
  induction entries with
  | nil => rfl
  | cons e entries ih => rw [filesBelow, ih]; rfl

theorem filesIn_subset {entries : List (String × Node)} {e : String × Node} (h : e ∈ entries) :
    filesIn e.1 e.2 ⊆ filesBelow entries := by
  rw [filesBelow_eq_flatMap]
  exact fun f hf => List.mem_flatMap.mpr ⟨e, h, hf⟩

/-- The class entries do not depend on the order of the files. -/
theorem classEntries_perm {files others : List (String × Content)} (h : files.Perm others) :
    (classEntries files).Perm (classEntries others) := by
  rw [classEntries_eq_flatMap files, classEntries_eq_flatMap others]
  exact h.flatMap_right _

/-! ### Paths of files -/

/-- The path of a file in an entry of a directory begins with the name of the entry. -/
theorem head?_segments {name : String} {node : Node} {f : String × Content}
    (slashless : '/' ∉ name.toList) (h : f ∈ filesIn name node) :
    (segments '/' f.1.toList).head? = some name.toList := by
  have hname := Text.segments_of_not_mem slashless
  cases node with
  | file =>
    obtain rfl := List.mem_singleton.mp h
    rw [hname, List.head?_cons]
  | directory entries =>
    obtain ⟨below, -, rfl⟩ := List.mem_map.mp h
    have written : (name ++ "/" ++ below.1).toList = name.toList ++ '/' :: below.1.toList := by
      simp
    rw [written, Text.segments_append, hname, List.singleton_append, List.head?_cons]

/-- The files in entries of distinct names have distinct paths if they have in each entry. -/
theorem nodup_paths {entries : List (String × Node)} (distinct : (entries.map (·.1)).Nodup)
    (slashless : ∀ e ∈ entries, '/' ∉ e.1.toList)
    (each : ∀ e ∈ entries, ((filesIn e.1 e.2).map (·.1)).Nodup) :
    ((filesBelow entries).map (·.1)).Nodup := by
  rw [filesBelow_eq_flatMap, List.map_flatMap, List.nodup_flatMap]
  refine ⟨each, (List.pairwise_map.mp distinct).imp_of_mem ?_⟩
  intro e e' he he' hne path hpath hpath'
  obtain ⟨f, hf, rfl⟩ := List.mem_map.mp hpath
  obtain ⟨f', hf', heq⟩ := List.mem_map.mp hpath'
  have hhead := head?_segments (slashless e he) hf
  rw [← heq, head?_segments (slashless e' he') hf', Option.some.injEq] at hhead
  exact hne (String.toList_inj.mp hhead).symm

theorem nodup_filesIn {node : Node} (proper : node.Proper) (name : String) :
    ((filesIn name node).map (·.1)).Nodup := by
  induction proper generalizing name with
  | file => simp [filesIn]
  | @directory entries distinct names _ _ ih =>
    have below := nodup_paths distinct (fun e he => (names e he).1) fun e he => ih e he e.1
    have written : (filesIn name (.directory entries)).map (·.1) =
        ((filesBelow entries).map (·.1)).map (name ++ "/" ++ ·) := by
      rw [filesIn, List.map_map, List.map_map]
      rfl
    rw [written]
    exact below.map fun path path' h => by simpa using h

/-- The files of a directory have distinct paths. -/
theorem Node.Proper.nodup_filesBelow {entries : List (String × Node)}
    (proper : (Node.directory entries).Proper) : ((filesBelow entries).map (·.1)).Nodup := by
  cases proper with
  | directory distinct names _ below =>
    exact nodup_paths distinct (fun e he => (names e he).1) fun e he => nodup_filesIn (below e he) _

/-! ## What a search shows -/

/-- The class at a place. -/
def Find.unit? : Find → Option ClassUnit
  | .unit c => some c
  | _ => none

/-- A search has found these classes, and nothing that cannot be read. -/
def Shows (finds : List Find) (units : List ClassUnit) : Prop :=
  finds.filterMap Find.unit? = units ∧ ∀ path, .broken path ∉ finds

namespace Shows

variable {finds others : List Find} {units more : List ClassUnit}

theorem nil : Shows [] [] := by simp [Shows]

theorem unit (unit : ClassUnit) : Shows [.unit unit] [unit] := by simp [Shows, Find.unit?]

theorem append (h : Shows finds units) (h' : Shows others more) :
    Shows (finds ++ others) (units ++ more) := by
  constructor
  · rw [List.filterMap_append, h.1, h'.1]
  · intro path hmem
    exact (List.mem_append.mp hmem).elim (h.2 path) (h'.2 path)

theorem archive (h : Shows finds units) : Shows (.archive :: finds) units := by
  simpa [Shows, List.filterMap_cons, Find.unit?] using h

theorem nested (h : Shows finds units) (archive entry : String) :
    Shows (.nested archive entry :: finds) units := by
  simpa [Shows, List.filterMap_cons, Find.unit?] using h

theorem of_unit {unit : ClassUnit} (h : Shows (.unit unit :: finds) units) :
    ∃ rest, units = unit :: rest ∧ Shows finds rest := by
  obtain ⟨rfl, sound⟩ := h
  exact ⟨_, rfl, rfl, fun path hmem => sound path (List.mem_cons_of_mem _ hmem)⟩

theorem of_other {find : Find} (h : Shows (find :: finds) units) (other : find.unit? = none) :
    Shows finds units := by
  rw [Shows, List.filterMap_cons_none other] at h
  exact ⟨h.1, fun path hmem => h.2 path (List.mem_cons_of_mem _ hmem)⟩

/-- In another order a search shows the same classes in another order. -/
theorem perm (h : Shows finds units) (order : others.Perm finds) :
    ∃ more, Shows others more ∧ more.Perm units := by
  refine ⟨_, ⟨rfl, fun path hmem => h.2 path (order.mem_iff.mp hmem)⟩, ?_⟩
  rw [← h.1]
  exact order.filterMap _

end Shows

/-- Entries of an archive show their class entries if those that are archives do. -/
theorem shows_entryFinds {entries : List (String × Content)}
    (distinct : (entries.map (·.1)).Nodup) (place : List String) (path : String)
    (nested : ∀ e ∈ entries, IsLookedInto e.1 → ∀ place path,
      Shows ((archiveFinds place path e.2).map (·.2)) (archivedEntries e.2)) :
    Shows ((entryFinds place path entries).map (·.2)) (classEntries entries) := by
  induction entries with
  | nil => exact .nil
  | cons e rest ih =>
    obtain ⟨name, content⟩ := e
    obtain ⟨here, nested⟩ := List.forall_mem_cons.mp nested
    obtain ⟨fresh, distinct⟩ := List.nodup_cons.mp distinct
    have once : rest.any (·.1 = name) = false := by
      rw [List.any_eq_false]
      rintro e he heq
      exact fresh (List.mem_map.mpr ⟨e, he, of_decide_eq_true heq⟩)
    rw [entryFinds, classEntries, List.map_append]
    refine .append ?_ (ih distinct nested)
    by_cases skipped : isSkipped name = true
    · simpa [skipped] using Shows.nil
    rw [Bool.not_eq_true] at skipped
    by_cases jar : (before? ".jar" name).isSome = true
    · simpa [skipped, once, jar] using (here ⟨skipped, jar⟩ _ _).nested path name
    by_cases named : (before? ".class" name).isSome = true
    · simpa [skipped, once, jar, named] using Shows.unit _
    · simpa [skipped, once, jar, named] using Shows.nil

/-- **An archive shows its class entries.** -/
theorem shows_archiveFinds {content : Content} (readable : content.Readable)
    (place : List String) (path : String) :
    Shows ((archiveFinds place path content).map (·.2)) (archivedEntries content) := by
  induction readable generalizing place path with
  | archive distinct _ ih =>
    rw [archiveFinds, archivedEntries, List.map_cons]
    exact (shows_entryFinds distinct place path ih).archive

/-! ## Directories -/

/-- Files by their paths from a directory further out. -/
def under (base : String) (files : List (String × Content)) : List (String × Content) :=
  files.map fun f => (base ++ f.1, f.2)

theorem under_append (base : String) (files others : List (String × Content)) :
    under base (files ++ others) = under base files ++ under base others :=
  List.map_append

theorem under_empty (files : List (String × Content)) : under "" files = files := by
  simp [under]

theorem under_filesIn (base name : String) (entries : List (String × Node)) :
    under base (filesIn name (.directory entries)) =
      under (base ++ name ++ "/") (filesBelow entries) := by
  simp [under, filesIn, String.append_assoc]

/-- A path without backslashes is the name of an entry as it stands. -/
theorem replace_backslash {path : String} (h : '\\' ∉ path.toList) :
    String.ofList (path.toList.map fun c => if c = '\\' then '/' else c) = path := by
  have same : ∀ c ∈ path.toList, (if c = '\\' then '/' else c) = id c := by
    intro c hc
    rw [if_neg]
    · rfl
    · rintro rfl
      exact h hc
  rw [List.map_congr_left same, List.map_id, String.ofList_toList]

/-- A file shows its class entries, by its path below the directory that the search began in. -/
theorem shows_nodeFinds_file {base name : String} {content : Content} (hbase : IsBase base)
    (plain : '\\' ∉ (base ++ name).toList)
    (named : name ≠ ".class" ∧ name ≠ ".jar") (readable : JarsReadable [(base ++ name, content)])
    (place : List String) (path : String) :
    Shows ((nodeFinds place (base ++ name) path name (.file content)).map (·.2))
      (classEntries [(base ++ name, content)]) := by
  have hclass := before?_isSome_iff_extension "class" rfl (by decide) (by decide) hbase named.1
  have hjar := before?_isSome_iff_extension "jar" rfl (by decide) (by decide) hbase named.2
  rw [nodeFinds, replace_backslash plain, classEntries, classEntries, List.append_nil]
  by_cases skipped : isSkipped (base ++ name) = true
  · simpa [skipped] using Shows.nil
  rw [Bool.not_eq_true] at skipped
  by_cases jar : (before? ".jar" (base ++ name)).isSome = true
  · have archive := readable _ List.mem_cons_self ⟨skipped, jar⟩
    simpa [skipped, jar, hjar.mp jar] using shows_archiveFinds archive place path
  by_cases unit : (before? ".class" (base ++ name)).isSome = true
  · simpa [skipped, jar, unit, hclass.mp unit] using Shows.unit _
  · rw [if_neg (by simp [skipped]), if_neg (by simp [skipped]), if_neg jar, if_neg unit]
    split
    · next h => exact absurd (hclass.mpr h) unit
    · next h => exact absurd (hjar.mpr h) jar
    · exact .nil

/-- Entries of a directory show the class entries among their files if each of them does. -/
theorem shows_entries {entries : List (String × Node)} {relative : Option String} {base : String}
    (hrelative : ∀ name, relative.elim name (· ++ "/" ++ name) = base ++ name)
    (place : List String) (path : String)
    (each : ∀ e ∈ entries, ∀ place path,
      Shows ((nodeFinds place (base ++ e.1) path e.1 e.2).map (·.2))
        (classEntries (under base (filesIn e.1 e.2)))) :
    Shows ((directoryFinds place relative path entries).map (·.2))
      (classEntries (under base (filesBelow entries))) := by
  induction entries with
  | nil => exact .nil
  | cons e rest ih =>
    obtain ⟨name, node⟩ := e
    obtain ⟨here, others⟩ := List.forall_mem_cons.mp each
    rw [directoryFinds, filesBelow, under_append, classEntries_append, List.map_append, hrelative]
    exact (here _ _).append (ih others)

/-- Below a directory entry, names stand behind a slash. -/
theorem isBase_append_slash (text : String) : IsBase (text ++ "/") := by
  right
  simp

/-- **A directory shows the class entries among its files.** -/
theorem shows_directoryFinds {node : Node} (proper : node.Proper)
    {entries : List (String × Node)} (directory : node = .directory entries)
    {relative : Option String} {base : String}
    (hrelative : ∀ name, relative.elim name (· ++ "/" ++ name) = base ++ name)
    (hbase : IsBase base) (plain : '\\' ∉ base.toList)
    (readable : JarsReadable (under base (filesBelow entries)))
    (place : List String) (path : String) :
    Shows ((directoryFinds place relative path entries).map (·.2))
      (classEntries (under base (filesBelow entries))) := by
  induction proper generalizing entries relative base place path with
  | file => cases directory
  | @directory entries' distinct names named below ih =>
    obtain rfl := Node.directory.inj directory
    refine shows_entries hrelative place path ?_
    rintro ⟨name, node⟩ hmem place path
    have readable : JarsReadable (under base (filesIn name node)) := by
      intro f hf
      exact readable f (List.map_subset _ (filesIn_subset hmem) hf)
    have hplain : '\\' ∉ (base ++ name).toList := by
      simpa using ⟨plain, (names _ hmem).2⟩
    cases node with
    | file content =>
      exact shows_nodeFinds_file hbase hplain (named _ _ hmem) readable place path
    | directory inner =>
      rw [under_filesIn] at readable ⊢
      rw [nodeFinds]
      refine ih _ hmem rfl (fun name => ?_) (isBase_append_slash _) ?_ readable place path
      · rfl
      · simpa using hplain

/-! ## Taking stock -/

/-- The names of some classes. -/
def unitNames (units : List ClassUnit) : List String := units.map (·.name)

/-- Stock is taken of some classes: all of them, each once, if their names are distinct. Otherwise a
name that two of them have is refused. -/
structure TakesStock (units : List ClassUnit) (outcome : Except Failure Inventory) : Prop where
  complete : ∀ i, outcome = .ok i → i.units.Perm units
  refused_iff : (∃ name, outcome = .error (.analysis (.duplicateClass name))) ↔
    ∃ name, 2 ≤ (unitNames units).count name
  /-- There is no other failure, and the name that is refused stands at least twice. -/
  failure : ∀ f, outcome = .error f →
    ∃ name, f = .analysis (.duplicateClass name) ∧ 2 ≤ (unitNames units).count name

theorem Inventory.add_of_not_mem {i : Inventory} {unit : ClassUnit}
    (fresh : unit.name ∉ unitNames i.units) :
    i.add unit = .ok { i with units := i.units ++ [unit] } := by
  rw [add, if_neg]
  simpa [unitNames] using fresh

theorem Inventory.add_of_mem {i : Inventory} {unit : ClassUnit}
    (taken : unit.name ∈ unitNames i.units) :
    i.add unit = .error (.duplicateClass unit.name) := by
  rw [add, if_pos]
  simpa [unitNames] using taken

/-- Either all classes of a search are added to an inventory, or a name is refused that then stands
twice. -/
theorem takeStock_cases {finds : List Find} {units : List ClassUnit} (h : Shows finds units)
    {i : Inventory} (distinct : (unitNames i.units).Nodup) (events : List Event) :
    (∃ j, (runFrom (takeStock i finds) events).1 = .ok j ∧ j.units = i.units ++ units ∧
      (unitNames (i.units ++ units)).Nodup) ∨
    ∃ name, (runFrom (takeStock i finds) events).1 = .error (.analysis (.duplicateClass name)) ∧
      2 ≤ (unitNames (i.units ++ units)).count name := by
  induction finds generalizing i units events with
  | nil =>
    obtain ⟨rfl, -⟩ := h
    refine .inl ⟨i, rfl, (List.append_nil _).symm, ?_⟩
    rwa [List.filterMap_nil, List.append_nil]
  | cons find finds ih =>
    match find with
    | .unit unit =>
      obtain ⟨rest, rfl, hrest⟩ := h.of_unit
      simp only [takeStock, runFrom_bind, Stage.runFrom_ofExcept]
      by_cases taken : unit.name ∈ unitNames i.units
      · rw [Inventory.add_of_mem taken]
        refine .inr ⟨unit.name, rfl, ?_⟩
        have once := List.count_pos_iff.mpr taken
        simp only [unitNames, List.map_append, List.map_cons, List.count_append,
          List.count_cons_self] at once ⊢
        omega
      · rw [Inventory.add_of_not_mem taken]
        have distinct : (unitNames (i.units ++ [unit])).Nodup := by
          rw [unitNames, List.map_append]
          exact distinct.append (List.nodup_singleton _) (by simpa [unitNames] using taken)
        have added := ih hrest (i := { i with units := i.units ++ [unit] }) distinct events
        simp only [List.append_assoc, List.singleton_append] at added
        exact added
    | .archive =>
      rw [takeStock]
      exact ih (h.of_other rfl) (i := { i with archives := i.archives + 1 }) distinct events
    | .nested archive entry => exact ih (h.of_other rfl) distinct _
    | .broken path => exact absurd List.mem_cons_self (h.2 path)

theorem TakesStock.perm {units others : List ClassUnit} {outcome : Except Failure Inventory}
    (h : TakesStock units outcome) (order : units.Perm others) : TakesStock others outcome := by
  have count (name : String) : (unitNames units).count name = (unitNames others).count name :=
    (order.map _).count_eq name
  constructor
  · exact fun i hi => (h.complete i hi).trans order
  · simpa only [count] using h.refused_iff
  · simpa only [count] using h.failure

/-- Two inventories of the same classes, or two refusals of a name. -/
def Alike (outcome outcome' : Except Failure Inventory) : Prop :=
  (∃ i j, outcome = .ok i ∧ outcome' = .ok j ∧ i.units.Perm j.units) ∨
    ∃ name name', outcome = .error (.analysis (.duplicateClass name)) ∧
      outcome' = .error (.analysis (.duplicateClass name'))

theorem TakesStock.alike {units : List ClassUnit} {outcome outcome' : Except Failure Inventory}
    (h : TakesStock units outcome) (h' : TakesStock units outcome') : Alike outcome outcome' := by
  have refused : (∃ name, outcome = .error (.analysis (.duplicateClass name))) ↔
      ∃ name, outcome' = .error (.analysis (.duplicateClass name)) :=
    h.refused_iff.trans h'.refused_iff.symm
  match outcome, outcome' with
  | .ok i, .ok j => exact .inl ⟨i, j, rfl, rfl, (h.complete i rfl).trans (h'.complete j rfl).symm⟩
  | .ok _, .error f =>
    obtain ⟨name, rfl, -⟩ := h'.failure f rfl
    obtain ⟨name', ⟨⟩⟩ := refused.mpr ⟨name, rfl⟩
  | .error f, .ok _ =>
    obtain ⟨name, rfl, -⟩ := h.failure f rfl
    obtain ⟨name', ⟨⟩⟩ := refused.mp ⟨name, rfl⟩
  | .error f, .error f' =>
    obtain ⟨name, rfl, -⟩ := h.failure f rfl
    obtain ⟨name', rfl, -⟩ := h'.failure f' rfl
    exact .inr ⟨name, name', rfl, rfl⟩

/-- Stock is taken of the classes that a search shows, in the order of their places. -/
theorem takesStock_inOrder {finds : List (List String × Find)} {units : List ClassUnit}
    (h : Shows (finds.map (·.2)) units) (events : List Event) :
    TakesStock units (runFrom (takeStock {} (inOrder finds)) events).1 := by
  obtain ⟨ordered, hordered, order⟩ := h.perm ((List.mergeSort_perm finds _).map (·.2))
  refine TakesStock.perm ?_ order
  have cases := takeStock_cases hordered (i := {}) List.nodup_nil events
  simp only [List.nil_append] at cases
  rw [inOrder]
  rcases cases with ⟨j, hj, hunits, distinct⟩ | ⟨name, hname, twice⟩
  · have once : ¬ ∃ name, 2 ≤ (unitNames ordered).count name := by
      rintro ⟨name, twice⟩
      have := List.nodup_iff_count_le_one.mp distinct name
      omega
    rw [hj]
    constructor
    · rintro _ ⟨⟩
      rw [hunits]
    · simp [once]
    · rintro f ⟨⟩
  · rw [hname]
    constructor
    · rintro i ⟨⟩
    · exact ⟨fun _ => ⟨name, twice⟩, fun _ => ⟨name, rfl⟩⟩
    · rintro f ⟨⟩
      exact ⟨name, rfl, twice⟩

section Inventories

variable [ClassFile.ContainerParser]

theorem takesStock_directory {entries : List (String × Node)}
    (proper : (Node.directory entries).Proper) (readable : JarsReadable (filesBelow entries))
    (path : String) (events : List Event) :
    TakesStock (classEntries (filesBelow entries))
      (runFrom (inventory path (some (.directory entries))) events).1 := by
  rw [← under_empty (filesBelow entries)] at readable ⊢
  refine takesStock_inOrder ?_ events
  exact shows_directoryFinds proper rfl (fun name => String.empty_append.symm) (.inl rfl)
    (List.not_mem_nil) readable [] path

theorem takesStock_archive {files : List (String × Content)} {path : String}
    (readable : (Content.archive files).Readable)
    (named : (fileName? path).bind extension? = some "jar") (events : List Event) :
    TakesStock (classEntries files)
      (runFrom (inventory path (some (.file (.archive files)))) events).1 := by
  rw [inventory]
  simp only [named]
  exact takesStock_inOrder (shows_archiveFinds readable [] path) events

/-- **A directory and an archive of its files hold the same classes.** Names below the directory are
such as a file system has, without backslashes, and archives below it that are looked into can be
read. Then both searches take stock of the class entries at every level: both have all of them, each
once, or both refuse a name, as they do exactly if two class entries have one name. -/
theorem directory_archive_agree {entries : List (String × Node)}
    {files : List (String × Content)} {archivePath : String}
    (proper : (Node.directory entries).Proper) (readable : JarsReadable (filesBelow entries))
    (same : files.Perm (filesBelow entries))
    (named : (fileName? archivePath).bind extension? = some "jar") (directoryPath : String)
    (events : List Event) :
    let ofDirectory := (runFrom (inventory directoryPath (some (.directory entries))) events).1
    let ofArchive := (runFrom (inventory archivePath (some (.file (.archive files)))) events).1
    TakesStock (classEntries (filesBelow entries)) ofDirectory ∧
      TakesStock (classEntries (filesBelow entries)) ofArchive ∧ Alike ofDirectory ofArchive := by
  have directory := takesStock_directory proper readable directoryPath events
  have content : (Content.archive files).Readable := by
    refine .archive ?_ fun f hf => readable f (same.mem_iff.mp hf)
    exact (same.map _).nodup_iff.mpr proper.nodup_filesBelow
  have archive := (takesStock_archive content named events).perm (classEntries_perm same)
  exact ⟨directory, archive, directory.alike archive⟩

end Inventories

/-! ## A packed directory -/

/-- An archive with a class that is left out and one that is not. -/
def keg : Content := .archive [("META-INF/A.class", .bytes [2]), ("p/B.class", .bytes [3])]

/-- A directory with a class below the root of a packing, and with the archive. -/
def packing : Node :=
  .directory [("classes", .directory [("A.class", .file (.bytes [1]))]),
    ("lib", .directory [("keg.jar", .file keg)])]

/-- A directory whose classes have distinct names. -/
def barrel : List (String × Node) :=
  [("BOOT-INF", packing), ("notes.txt", .file (.bytes []))]

/-- A directory with two classes of one name, one of them below the root of the packing. -/
def fullBarrel : List (String × Node) :=
  [("A.class", .file (.bytes [4])), ("BOOT-INF", packing)]

theorem keg_readable : keg.Readable := by
  refine .archive (by decide +kernel) ?_
  simp only [List.forall_mem_cons]
  refine ⟨fun h => ?_, fun h => ?_, by simp⟩
  · exact absurd h.1 (by decide +kernel)
  · exact absurd h.2 (by decide +kernel)

theorem packing_proper : packing.Proper := by
  have classes : (Node.directory [("A.class", .file (.bytes [1]))]).Proper :=
    .directory (by decide +kernel) (by simp) (by simp) (by simpa using .file _)
  have lib : (Node.directory [("keg.jar", .file keg)]).Proper :=
    .directory (by decide +kernel) (by simp) (by simp) (by simpa using .file _)
  exact .directory (by decide +kernel) (by simp) (by simp) (by simpa using ⟨classes, lib⟩)

theorem jarsReadable_of_keg {files : List (String × Content)}
    (h : ∀ f ∈ files, f.2 = keg ∨ ¬ (before? ".jar" f.1).isSome) : JarsReadable files := by
  intro f hf looked
  rcases h f hf with content | unnamed
  · rw [content]
    exact keg_readable
  · exact absurd looked.2 unnamed

theorem jarsReadable_fullBarrel : JarsReadable (filesBelow fullBarrel) := by
  refine jarsReadable_of_keg (List.forall_mem_cons.mpr ⟨.inr (by decide +kernel), ?_⟩)
  exact List.forall_mem_cons.mpr
    ⟨.inr (by decide +kernel), List.forall_mem_singleton.mpr (.inl rfl)⟩

theorem jarsReadable_barrel : JarsReadable (filesBelow barrel) := by
  refine jarsReadable_of_keg (List.forall_mem_cons.mpr ⟨.inr (by decide +kernel), ?_⟩)
  exact List.forall_mem_cons.mpr
    ⟨.inl rfl, List.forall_mem_singleton.mpr (.inr (by decide +kernel))⟩

/-- The library of the sample. The files of the sample hold a byte each, so none is a class. -/
abbrev noContainers : ClassFile.ContainerParser := ⟨fun _ => .error "not enough bytes"⟩

/-- The search of a directory with two classes of one name, and that of the archive of its files,
refuse the name. Without the second class both have the classes of the directory and of the archive
in it, but not the one that is left out. -/
theorem directory_archive_agree_barrels :
    ((Node.directory fullBarrel).Proper ∧ JarsReadable (filesBelow fullBarrel) ∧
      unitNames (classEntries (filesBelow fullBarrel)) = ["A", "A", "p/B"] ∧
      ∃ name name',
        (runFrom (@inventory noContainers "d" (some (.directory fullBarrel))) []).1 =
          .error (.analysis (.duplicateClass name)) ∧
        (runFrom (@inventory noContainers "d.jar"
          (some (.file (.archive (filesBelow fullBarrel).reverse)))) []).1 =
          .error (.analysis (.duplicateClass name'))) ∧
    ((Node.directory barrel).Proper ∧ JarsReadable (filesBelow barrel) ∧
      unitNames (classEntries (filesBelow barrel)) = ["A", "p/B"] ∧
      Alike (runFrom (@inventory noContainers "d" (some (.directory barrel))) []).1
        (runFrom (@inventory noContainers "d.jar"
          (some (.file (.archive (filesBelow barrel).reverse)))) []).1 ∧
      ∀ i, (runFrom (@inventory noContainers "d" (some (.directory barrel))) []).1 = .ok i →
        i.units.Perm (classEntries (filesBelow barrel))) := by
  let := noContainers
  have properFull : (Node.directory fullBarrel).Proper :=
    .directory (by decide +kernel) (by simp [fullBarrel]) (by simp [fullBarrel, packing])
      (by simpa [fullBarrel] using ⟨.file _, packing_proper⟩)
  have proper : (Node.directory barrel).Proper :=
    .directory (by decide +kernel) (by simp [barrel]) (by simp [barrel, packing])
      (by simpa [barrel] using ⟨packing_proper, .file _⟩)
  have named : (fileName? "d.jar").bind extension? = some "jar" := by decide +kernel
  have doubled : unitNames (classEntries (filesBelow fullBarrel)) = ["A", "A", "p/B"] := by
    decide +kernel
  have twice : ∃ name, 2 ≤ (unitNames (classEntries (filesBelow fullBarrel))).count name :=
    ⟨"A", by rw [doubled]; decide⟩
  obtain ⟨directoryFull, archiveFull, -⟩ := directory_archive_agree properFull
    jarsReadable_fullBarrel (List.reverse_perm _) named "d" []
  obtain ⟨directory, -, alike⟩ := directory_archive_agree proper jarsReadable_barrel
    (List.reverse_perm _) named "d" []
  obtain ⟨name, hname⟩ := directoryFull.refused_iff.mpr twice
  obtain ⟨name', hname'⟩ := archiveFull.refused_iff.mpr twice
  exact ⟨⟨properFull, jarsReadable_fullBarrel, doubled, name, name', hname, hname'⟩,
    proper, jarsReadable_barrel, by decide +kernel, alike, directory.complete⟩

end Files

end ApiSurface
