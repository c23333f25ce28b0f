import NousKernel.ProjectScan

/-!
What the scan of a project tells. In reach are the entries of the folders that lead down
from the root without a symlink or a skipped folder and are not too deep. An analysis tells
what these show and nothing else, or it is full of files and says so.
-/

set_option autoImplicit false

namespace NousKernel

open StackWalk

/-! ### What is in reach -/

inductive ScanFact where
  | language (name : String)
  | framework (name : String)
  | listed (list : ProjectList) (text : String)
  | warning (text : String)
  deriving DecidableEq

def ProjectAnalysis.Tells (analysis : ProjectAnalysis) : ScanFact → Prop
  | .language name => name ∈ analysis.languages
  | .framework name => name ∈ analysis.frameworks
  | .listed list text => text ∈ analysis.listed list
  | .warning text => text ∈ analysis.warnings

section Reach

variable (fs : ProjectFiles) (root : List String)

def FileShows (path : List String) (size : Nat) : ScanFact → Prop
  | .language name => languageOf (lowercased (extensionOf (fileName path))) = some name
  | .framework name => name ∈ frameworksOf fs path size
  | .listed list text => list.lists path = true ∧ text = displayRelative root path
  | .warning _ => False

/-- What a folder at some depth shows. -/
inductive FolderShows : List String → Nat → ScanFact → Prop
  | tooDeep {folder : List String} {depth : Nat} (deep : maxDepth < depth) :
      FolderShows folder depth (.warning (depthWarning root folder))
  | symlink {folder : List String} {depth : Nat} {entries : List (Except String String)}
      {name : String} (shallow : depth ≤ maxDepth) (listing : fs.readDir folder = .ok entries)
      (entry : .ok name ∈ entries)
      (kind : fs.symlinkMetadata (folder ++ [name]) = .ok .symlink) :
      FolderShows folder depth (.warning (symlinkWarning root (folder ++ [name])))
  | file {folder : List String} {depth : Nat} {entries : List (Except String String)}
      {name : String} {size : Nat} {fact : ScanFact} (shallow : depth ≤ maxDepth)
      (listing : fs.readDir folder = .ok entries) (entry : .ok name ∈ entries)
      (kind : fs.symlinkMetadata (folder ++ [name]) = .ok (.file size))
      (shows : FileShows fs root (folder ++ [name]) size fact) : FolderShows folder depth fact
  | folder {folder : List String} {depth : Nat} {entries : List (Except String String)}
      {name : String} {fact : ScanFact} (shallow : depth ≤ maxDepth)
      (listing : fs.readDir folder = .ok entries) (entry : .ok name ∈ entries)
      (kind : fs.symlinkMetadata (folder ++ [name]) = .ok .folder)
      (kept : name ∉ skippedFolders) (below : FolderShows (folder ++ [name]) (depth + 1) fact) :
      FolderShows folder depth fact

/-- What one entry of a folder shows. -/
def EntryShows (folder : List String) (depth : Nat) (name : String) (fact : ScanFact) : Prop :=
  (fs.symlinkMetadata (folder ++ [name]) = .ok .symlink ∧
      fact = .warning (symlinkWarning root (folder ++ [name]))) ∨
    (∃ size, fs.symlinkMetadata (folder ++ [name]) = .ok (.file size) ∧
      FileShows fs root (folder ++ [name]) size fact) ∨
    (fs.symlinkMetadata (folder ++ [name]) = .ok .folder ∧ name ∉ skippedFolders ∧
      FolderShows fs root (folder ++ [name]) (depth + 1) fact)

/-- What an analysis tells already, or the pending folders show. -/
def ScanOutlook (pending : List PendingFolder) (analysis : ProjectAnalysis)
    (fact : ScanFact) : Prop :=
  analysis.Tells fact ∨ ∃ next ∈ pending, FolderShows fs root next.1 next.2 fact

end Reach

variable {fs : ProjectFiles} {root folder : List String} {depth : Nat} {fact : ScanFact}

theorem shows_deep (deep : maxDepth < depth) :
    FolderShows fs root folder depth fact ↔ fact = .warning (depthWarning root folder) := by
  constructor
  · intro shows
    cases shows with
    | tooDeep _ => rfl
    | symlink shallow => omega
    | file shallow => omega
    | folder shallow => omega
  · rintro rfl
    exact .tooDeep deep

theorem shows_shallow (shallow : depth ≤ maxDepth) {entries : List (Except String String)}
    (listing : fs.readDir folder = .ok entries) :
    FolderShows fs root folder depth fact ↔
      ∃ name, .ok name ∈ entries ∧ EntryShows fs root folder depth name fact := by
  constructor
  · intro shows
    cases shows with
    | tooDeep deep => omega
    | symlink _ read entry kind =>
        cases listing.symm.trans read
        exact ⟨_, entry, .inl ⟨kind, rfl⟩⟩
    | file _ read entry kind shows =>
        cases listing.symm.trans read
        exact ⟨_, entry, .inr (.inl ⟨_, kind, shows⟩)⟩
    | folder _ read entry kind kept below =>
        cases listing.symm.trans read
        exact ⟨_, entry, .inr (.inr ⟨kind, kept, below⟩)⟩
  · rintro ⟨name, entry, ⟨kind, rfl⟩ | ⟨size, kind, shows⟩ | ⟨kind, kept, below⟩⟩
    · exact .symlink shallow listing entry kind
    · exact .file shallow listing entry kind shows
    · exact .folder shallow listing entry kind kept below

/-! ### What one step tells -/

theorem tells_warn {analysis : ProjectAnalysis} {text : String} :
    (analysis.warn text).Tells fact ↔ analysis.Tells fact ∨ fact = .warning text := by
  cases fact with
  | warning other =>
      show other ∈ analysis.warnings ++ [text] ↔ _
      rw [List.mem_append, List.mem_singleton, ScanFact.warning.injEq]
      rfl
  | language name => simp [ProjectAnalysis.Tells, ProjectAnalysis.warn]
  | framework name => simp [ProjectAnalysis.Tells, ProjectAnalysis.warn]
  | listed list text =>
      cases list <;> simp [ProjectAnalysis.Tells, ProjectAnalysis.warn, ProjectAnalysis.listed]

theorem listed_classifyFile {path : List String} {size : Nat} {analysis : ProjectAnalysis}
    (list : ProjectList) :
    (classifyFile fs root path size analysis).listed list =
      analysis.listed list ++ if list.lists path then [displayRelative root path] else [] := by
  cases list <;> rfl

theorem tells_classifyFile {path : List String} {size : Nat} {analysis : ProjectAnalysis} :
    (classifyFile fs root path size analysis).Tells fact ↔
      analysis.Tells fact ∨ FileShows fs root path size fact := by
  cases fact with
  | language name =>
      show name ∈ analysis.languages ∪ (languageOf _).toFinset ↔ _
      rw [Finset.mem_union, Option.mem_toFinset, Option.mem_def]
      rfl
  | framework name =>
      show name ∈ analysis.frameworks ∪ (frameworksOf fs path size).toFinset ↔ _
      rw [Finset.mem_union, List.mem_toFinset]
      rfl
  | listed list text =>
      show text ∈ (classifyFile fs root path size analysis).listed list ↔
        text ∈ analysis.listed list ∨ (list.lists path = true ∧ text = displayRelative root path)
      rw [listed_classifyFile, List.mem_append]
      by_cases lists : list.lists path = true <;> simp [lists]
  | warning text =>
      show text ∈ analysis.warnings ↔ text ∈ analysis.warnings ∨ False
      rw [or_false]

theorem tells_counted {analysis : ProjectAnalysis} {count : Nat} :
    ProjectAnalysis.Tells { analysis with filesScanned := count } fact ↔ analysis.Tells fact := by
  cases fact with
  | listed list text => cases list <;> rfl
  | _ => rfl

theorem outlook_found {pending : List PendingFolder} {analysis : ProjectAnalysis}
    {next : PendingFolder} :
    ScanOutlook fs root (next :: pending) analysis fact ↔
      ScanOutlook fs root pending analysis fact ∨ FolderShows fs root next.1 next.2 fact := by
  simp only [ScanOutlook, List.mem_cons, or_and_right, exists_or, exists_eq_left]
  rw [← or_assoc, or_right_comm]

/-! ### One folder -/

theorem exists_ok_cons {name : String} {entries : List (Except String String)}
    {holds : String → Prop} :
    (∃ other, .ok other ∈ Except.ok name :: entries ∧ holds other) ↔
      holds name ∨ ∃ other, .ok other ∈ entries ∧ holds other := by
  simp only [List.mem_cons, Except.ok.injEq, or_and_right, exists_or, exists_eq_left]

theorem entryShows_symlink {name : String}
    (kind : fs.symlinkMetadata (folder ++ [name]) = .ok .symlink) :
    EntryShows fs root folder depth name fact ↔
      fact = .warning (symlinkWarning root (folder ++ [name])) := by
  simp [EntryShows, kind]

theorem entryShows_file {name : String} {size : Nat}
    (kind : fs.symlinkMetadata (folder ++ [name]) = .ok (.file size)) :
    EntryShows fs root folder depth name fact ↔
      FileShows fs root (folder ++ [name]) size fact := by
  simp [EntryShows, kind]

theorem entryShows_folder {name : String}
    (kind : fs.symlinkMetadata (folder ++ [name]) = .ok .folder) :
    EntryShows fs root folder depth name fact ↔
      name ∉ skippedFolders ∧ FolderShows fs root (folder ++ [name]) (depth + 1) fact := by
  simp [EntryShows, kind]

theorem entryShows_other {name : String}
    (kind : fs.symlinkMetadata (folder ++ [name]) = .ok .other) :
    ¬EntryShows fs root folder depth name fact := by
  simp [EntryShows, kind]

/-- How the entries of a folder are dealt with: all of them, or those before the limit. -/
inductive ScanDealt (fs : ProjectFiles) (root folder : List String) (depth : Nat)
    (entries : List (Except String String)) (found : List PendingFolder)
    (analysis : ProjectAnalysis) : Visit PendingFolder ProjectAnalysis → Prop
  | all {found' : List PendingFolder} {last : ProjectAnalysis}
      (counted : last.filesScanned ≤ maxFiles)
      (tells : ∀ fact, ScanOutlook fs root found' last fact ↔
        ScanOutlook fs root found analysis fact ∨ ∃ name, .ok name ∈ entries ∧ EntryShows fs root folder depth name fact) :
      ScanDealt fs root folder depth entries found analysis (.goOn found' last)
  | limited {last : ProjectAnalysis} (full : last.filesScanned = maxFiles)
      (limitTold : last.Tells (.warning limitWarning))
      (tells : ∀ fact, last.Tells fact → ScanOutlook fs root found analysis fact ∨
        (∃ name, .ok name ∈ entries ∧ EntryShows fs root folder depth name fact) ∨
          fact = .warning limitWarning) :
      ScanDealt fs root folder depth entries found analysis (.stop last)

theorem ScanDealt.cons {name : String} {entries : List (Except String String)}
    {found found' : List PendingFolder} {analysis next : ProjectAnalysis}
    {visit : Visit PendingFolder ProjectAnalysis}
    (first : ∀ fact, ScanOutlook fs root found' next fact ↔
      ScanOutlook fs root found analysis fact ∨ EntryShows fs root folder depth name fact)
    (rest : ScanDealt fs root folder depth entries found' next visit) :
    ScanDealt fs root folder depth (.ok name :: entries) found analysis visit := by
  cases rest with
  | all counted tells =>
      refine .all counted fun fact => ?_
      rw [tells fact, first fact, exists_ok_cons, or_assoc]
  | limited full limitTold tells =>
      refine .limited full limitTold fun fact told => ?_
      rw [exists_ok_cons]
      rcases tells fact told with known | shown | limit
      · rcases (first fact).mp known with before | entry
        · exact .inl before
        · exact .inr (.inl (.inl entry))
      · exact .inr (.inl (.inr shown))
      · exact .inr (.inr limit)

theorem dealt_scanEntries {entries : List (Except String String)} {found : List PendingFolder}
    {analysis : ProjectAnalysis} {visit : Visit PendingFolder ProjectAnalysis}
    (counted : analysis.filesScanned ≤ maxFiles)
    (scanned : scanEntries fs root folder depth entries found analysis = .ok visit) :
    ScanDealt fs root folder depth entries found analysis visit := by
  induction entries generalizing found analysis with
  | nil =>
      cases scanned
      exact .all counted fun fact => by simp
  | cons entry entries ih =>
      unfold scanEntries at scanned
      by_cases full : maxFiles ≤ analysis.filesScanned
      · rw [if_pos full] at scanned
        cases scanned
        refine .limited (le_antisymm counted full) (tells_warn.mpr (.inr rfl)) fun fact told => ?_
        rcases tells_warn.mp told with known | limit
        · exact .inl (.inl known)
        · exact .inr (.inr limit)
      · rw [if_neg full] at scanned
        cases entry with
        | error error => cases scanned
        | ok name =>
            cases kind : fs.symlinkMetadata (folder ++ [name]) with
            | error error => simp [kind] at scanned
            | ok shape =>
                cases shape with
                | symlink =>
                    simp only [kind] at scanned
                    refine .cons ?_ (ih ?_ scanned)
                    · intro fact
                      rw [entryShows_symlink kind]
                      unfold ScanOutlook
                      rw [tells_warn]
                      exact or_right_comm
                    · exact counted
                | folder =>
                    simp only [kind] at scanned
                    refine .cons (fun fact => ?_) (ih counted scanned)
                    rw [entryShows_folder kind]
                    by_cases skipped : name ∈ skippedFolders
                    · simp [skipped]
                    · rw [if_neg skipped, outlook_found]
                      simp [skipped]
                | other =>
                    simp only [kind] at scanned
                    refine .cons (fun fact => ?_) (ih counted scanned)
                    simp [entryShows_other kind]
                | file size =>
                    simp only [kind] at scanned
                    refine .cons ?_ (ih ?_ scanned)
                    · intro fact
                      rw [entryShows_file kind]
                      unfold ScanOutlook
                      rw [tells_classifyFile, tells_counted]
                      exact or_right_comm
                    · exact Nat.lt_of_not_le full

/-! ### One folder on the stack -/

theorem scanFolder_deep {analysis : ProjectAnalysis} (deep : maxDepth < depth) :
    scanFolder fs root (folder, depth) analysis =
      .ok (.goOn [] (analysis.warn (depthWarning root folder))) :=
  if_pos deep

theorem dealt_scanFolder {analysis : ProjectAnalysis}
    {visit : Visit PendingFolder ProjectAnalysis} (shallow : depth ≤ maxDepth)
    (counted : analysis.filesScanned ≤ maxFiles)
    (scanned : scanFolder fs root (folder, depth) analysis = .ok visit) :
    ∃ entries, fs.readDir folder = .ok entries ∧
      ScanDealt fs root folder depth entries [] analysis visit := by
  unfold scanFolder at scanned
  rw [if_neg (Nat.not_lt.mpr shallow)] at scanned
  cases listing : fs.readDir folder with
  | error error => simp [listing] at scanned
  | ok entries =>
      simp only [listing] at scanned
      exact ⟨entries, rfl, dealt_scanEntries counted scanned⟩

theorem outlook_append {found pending : List PendingFolder} {analysis : ProjectAnalysis} :
    ScanOutlook fs root (found ++ pending) analysis fact ↔
      ScanOutlook fs root found analysis fact ∨
        ∃ next ∈ pending, FolderShows fs root next.1 next.2 fact := by
  simp only [ScanOutlook, List.mem_append, or_and_right, exists_or, or_assoc]

theorem outlook_nil {analysis : ProjectAnalysis} :
    ScanOutlook fs root [] analysis fact ↔ analysis.Tells fact := by
  simp [ScanOutlook]

/-! ### The whole walk -/

/-- A walk under way has what its root shows told already or pending. -/
structure ScanUnderway (fs : ProjectFiles) (root : List String) (pending : List PendingFolder)
    (analysis : ProjectAnalysis) : Prop where
  counted : analysis.filesScanned ≤ maxFiles
  outlook : ∀ fact, ScanOutlook fs root pending analysis fact ↔ FolderShows fs root root 0 fact

/-- A walk that ended at the limit says so, and tells nothing that its root does not show. -/
structure ScanFull (fs : ProjectFiles) (root : List String) (last : ProjectAnalysis) : Prop where
  counted : last.filesScanned = maxFiles
  limitTold : last.Tells (.warning limitWarning)
  shown : ∀ fact, last.Tells fact → FolderShows fs root root 0 fact ∨ fact = .warning limitWarning

section Walk

variable {next : PendingFolder} {pending found : List PendingFolder}
  {analysis last : ProjectAnalysis}

theorem ScanUnderway.goOn (under : ScanUnderway fs root (next :: pending) analysis)
    (scanned : scanFolder fs root next analysis = .ok (.goOn found last)) :
    ScanUnderway fs root (found ++ pending) last := by
  obtain ⟨folder, depth⟩ := next
  rcases Nat.lt_or_ge maxDepth depth with deep | shallow
  · rw [scanFolder_deep deep] at scanned
    cases scanned
    refine ⟨under.counted, fun fact => ?_⟩
    rw [← under.outlook fact, outlook_append, outlook_nil, tells_warn, outlook_found,
      shows_deep deep]
    exact or_right_comm
  · obtain ⟨entries, listing, dealt⟩ := dealt_scanFolder shallow under.counted scanned
    cases dealt with
    | all counted tells =>
        refine ⟨counted, fun fact => ?_⟩
        rw [← under.outlook fact, outlook_append, tells fact, outlook_nil, outlook_found,
          ← shows_shallow shallow listing]
        exact or_right_comm

theorem ScanUnderway.stop (under : ScanUnderway fs root (next :: pending) analysis)
    (scanned : scanFolder fs root next analysis = .ok (.stop last)) : ScanFull fs root last := by
  obtain ⟨folder, depth⟩ := next
  rcases Nat.lt_or_ge maxDepth depth with deep | shallow
  · rw [scanFolder_deep deep] at scanned
    cases scanned
  · obtain ⟨entries, listing, dealt⟩ := dealt_scanFolder shallow under.counted scanned
    cases dealt with
    | limited full limitTold tells =>
        refine ⟨full, limitTold, fun fact told => ?_⟩
        rw [← under.outlook fact, outlook_found]
        rcases tells fact told with before | shown | limit
        · exact .inl (.inl (.inl (outlook_nil.mp before)))
        · exact .inl (.inr ((shows_shallow shallow listing).mpr shown))
        · exact .inr limit

theorem ScanUnderway.walk {fuel : Nat} (under : ScanUnderway fs root pending analysis)
    (walked : walkStack (scanFolder fs root) fuel pending analysis = some (.ok last)) :
    ScanUnderway fs root [] last ∨ ScanFull fs root last :=
  walkStack_ends (ScanUnderway fs root) (ScanFull fs root)
    (fun _ _ _ _ _ under scanned => under.goOn scanned)
    (fun _ _ _ _ under scanned => under.stop scanned) under walked

theorem ScanUnderway.done (under : ScanUnderway fs root [] last) (fact : ScanFact) :
    last.Tells fact ↔ FolderShows fs root root 0 fact :=
  outlook_nil.symm.trans (under.outlook fact)

theorem underway_start {shown : String} : ScanUnderway fs root [(root, 0)] { root := shown } where
  counted := Nat.zero_le _
  outlook fact := by
    have empty : ¬ProjectAnalysis.Tells { root := shown } fact := by
      cases fact with
      | listed list text => cases list <;> exact List.not_mem_nil
      | warning text => exact List.not_mem_nil
      | language name => exact Finset.notMem_empty name
      | framework name => exact Finset.notMem_empty name
    rw [outlook_found, outlook_nil]
    exact or_iff_right empty

end Walk

/-! ### The walk ends -/

/-- The folder that an entry adds to the walk. -/
def subfolder (fs : ProjectFiles) (folder : List String) :
    Except String String → Option (List String)
  | .error _ => none
  | .ok name =>
      match fs.symlinkMetadata (folder ++ [name]) with
      | .ok .folder => if name ∈ skippedFolders then none else some (folder ++ [name])
      | _ => none

def subfolders (fs : ProjectFiles) (folder : List String) : List (List String) :=
  match fs.readDir folder with
  | .error _ => []
  | .ok entries => entries.filterMap (subfolder fs folder)

/-- How many folders a walk visits at most below one, with so many levels left. -/
def visits (fs : ProjectFiles) : Nat → List String → Nat
  | 0, _ => 1
  | levels + 1, folder => 1 + ((subfolders fs folder).map (visits fs levels)).sum

def visitsBelow (fs : ProjectFiles) (next : PendingFolder) : Nat :=
  visits fs (maxDepth + 1 - next.2) next.1

theorem found_scanEntries {entries : List (Except String String)}
    {before found : List PendingFolder} {analysis last : ProjectAnalysis}
    (scanned : scanEntries fs root folder depth entries before analysis = .ok (.goOn found last)) :
    found = ((entries.filterMap (subfolder fs folder)).map (·, depth + 1)).reverse ++ before := by
  induction entries generalizing before analysis with
  | nil =>
      cases scanned
      rfl
  | cons entry entries ih =>
      unfold scanEntries at scanned
      by_cases full : maxFiles ≤ analysis.filesScanned
      · rw [if_pos full] at scanned
        cases scanned
      · rw [if_neg full] at scanned
        cases entry with
        | error error => cases scanned
        | ok name =>
            cases kind : fs.symlinkMetadata (folder ++ [name]) with
            | error error => simp [kind] at scanned
            | ok shape =>
                simp only [kind] at scanned
                cases shape with
                | folder =>
                    rw [ih scanned]
                    by_cases skipped : name ∈ skippedFolders <;> simp [subfolder, kind, skipped]
                | symlink => simpa [subfolder, kind] using ih scanned
                | other => simpa [subfolder, kind] using ih scanned
                | file size => simpa [subfolder, kind] using ih scanned

theorem lighter_scanFolder (next : PendingFolder) (analysis : ProjectAnalysis)
    (found : List PendingFolder) (last : ProjectAnalysis)
    (scanned : scanFolder fs root next analysis = .ok (.goOn found last)) :
    (found.map (visitsBelow fs)).sum < visitsBelow fs next := by
  obtain ⟨folder, depth⟩ := next
  rcases Nat.lt_or_ge maxDepth depth with deep | shallow
  · rw [scanFolder_deep deep] at scanned
    cases scanned
    have level : maxDepth + 1 - depth = 0 := by omega
    simp [visitsBelow, level, visits]
  · have level : maxDepth + 1 - depth = (maxDepth - depth) + 1 := by omega
    have below : maxDepth + 1 - (depth + 1) = maxDepth - depth := by omega
    unfold scanFolder at scanned
    rw [if_neg (Nat.not_lt.mpr shallow)] at scanned
    cases listing : fs.readDir folder with
    | error error => simp [listing] at scanned
    | ok entries =>
        simp only [listing] at scanned
        have same : visitsBelow fs ∘ (·, depth + 1) = visits fs (maxDepth - depth) := by
          funext path
          rw [Function.comp_apply, visitsBelow, below]
        rw [found_scanEntries scanned, List.append_nil, List.map_reverse, List.sum_reverse,
          List.map_map, same]
        simp [visitsBelow, level, visits, subfolders, listing]

theorem walkStack_scanFolder (fs : ProjectFiles) (root : List String) (analysis : ProjectAnalysis) :
    ∃ outcome, ∀ fuel, visitsBelow fs (root, 0) < fuel →
      walkStack (scanFolder fs root) fuel [(root, 0)] analysis = some outcome := by
  have bounded : (([(root, 0)] : List PendingFolder).map (visitsBelow fs)).sum <
      visitsBelow fs (root, 0) + 1 := by simp
  obtain ⟨outcome, walked⟩ := walkStack_some lighter_scanFolder bounded analysis
  exact ⟨outcome, fun fuel enough => walkStack_more walked enough⟩

/-! ### The collected lists -/

theorem mem_destutter' {text first : String} {texts : List String} :
    text ∈ texts.destutter' (· ≠ ·) first ↔ text = first ∨ text ∈ texts := by
  induction texts generalizing first with
  | nil => simp
  | cons next texts ih =>
      rw [List.destutter'_cons]
      by_cases differ : first ≠ next
      · rw [if_pos differ, List.mem_cons, ih, List.mem_cons]
      · obtain rfl : first = next := not_not.mp differ
        rw [if_neg differ, ih, List.mem_cons, or_self_left]

theorem mem_collated {text : String} {texts : List String} :
    text ∈ collated texts ↔ text ∈ texts := by
  have sorted : text ∈ sortTexts texts ↔ text ∈ texts := List.mem_mergeSort
  rw [← sorted, collated]
  cases sortTexts texts with
  | nil => rfl
  | cons first rest => rw [List.destutter_cons', mem_destutter', List.mem_cons]

theorem destutter'_pairwise {first : String} {texts : List String}
    (sorted : (first :: texts).Pairwise (· ≤ ·)) :
    (texts.destutter' (· ≠ ·) first).Pairwise (· < ·) := by
  induction texts generalizing first with
  | nil => exact List.pairwise_singleton _ _
  | cons next texts ih =>
      have least : first ≤ next := List.rel_of_pairwise_cons sorted (List.mem_cons_self ..)
      have rest : (next :: texts).Pairwise (· ≤ ·) := sorted.of_cons
      rw [List.destutter'_cons]
      by_cases differ : first ≠ next
      · rw [if_pos differ]
        refine List.pairwise_cons.mpr ⟨fun text known => ?_, ih rest⟩
        have below : first < next := Std.lt_of_le_of_ne least differ
        rcases mem_destutter'.mp known with rfl | later
        · exact below
        · exact Std.lt_of_lt_of_le below (List.rel_of_pairwise_cons rest later)
      · obtain rfl : first = next := not_not.mp differ
        rw [if_neg differ]
        exact ih rest

theorem collated_pairwise (texts : List String) : (collated texts).Pairwise (· < ·) := by
  have sorted : (sortTexts texts).Pairwise (· ≤ ·) := List.pairwise_mergeSort' (· ≤ ·) texts
  rw [collated]
  cases listed : sortTexts texts with
  | nil => exact List.Pairwise.nil
  | cons first rest => exact destutter'_pairwise (listed ▸ sorted)

/-! ### The analysis -/

theorem listed_concluded {analysis : ProjectAnalysis} (list : ProjectList) :
    analysis.concluded.listed list = collated (analysis.listed list) := by
  cases list <;> rfl

theorem tells_concluded {analysis : ProjectAnalysis} :
    analysis.concluded.Tells fact ↔ analysis.Tells fact ∨
      fact = .warning licenseWarning ∧
        ∀ text, ¬analysis.Tells (.listed .licenseFiles text) := by
  cases fact with
  | listed list text =>
      show text ∈ analysis.concluded.listed list ↔ text ∈ analysis.listed list ∨ _
      rw [listed_concluded, mem_collated]
      simp
  | language name => simp [ProjectAnalysis.Tells, ProjectAnalysis.concluded]
  | framework name => simp [ProjectAnalysis.Tells, ProjectAnalysis.concluded]
  | warning text =>
      have none : (∀ text, ¬analysis.Tells (.listed .licenseFiles text)) ↔
          collated analysis.licenseFiles = [] := by
        rw [← List.isEmpty_iff, collated_isEmpty, List.eq_nil_iff_forall_not_mem]
        rfl
      rw [none]
      show text ∈ sortTexts (collated analysis.warnings ++
        if collated analysis.licenseFiles = [] then [licenseWarning] else []) ↔
          text ∈ analysis.warnings ∨ _
      rw [sortTexts, List.mem_mergeSort, List.mem_append, mem_collated]
      by_cases unlicensed : collated analysis.licenseFiles = [] <;> simp [unlicensed]

/-- What a whole scan is to tell. -/
def ScanShows (fs : ProjectFiles) (root : List String) (fact : ScanFact) : Prop :=
  FolderShows fs root root 0 fact ∨ fact = .warning licenseWarning ∧
    ∀ text, ¬FolderShows fs root root 0 (.listed .licenseFiles text)

theorem concluded_done {last : ProjectAnalysis} (under : ScanUnderway fs root [] last) :
    last.concluded.Tells fact ↔ ScanShows fs root fact := by
  rw [tells_concluded, ScanShows, under.done]
  simp only [under.done]

theorem concluded_full {last : ProjectAnalysis} (full : ScanFull fs root last) :
    last.concluded.filesScanned = maxFiles ∧ last.concluded.Tells (.warning limitWarning) ∧
      ∀ fact, last.concluded.Tells fact → FolderShows fs root root 0 fact ∨
        fact = .warning limitWarning ∨ fact = .warning licenseWarning := by
  refine ⟨full.counted, tells_concluded.mpr (.inl full.limitTold), fun fact told => ?_⟩
  rcases tells_concluded.mp told with known | ⟨license, _⟩
  · exact (full.shown fact known).imp_right .inl
  · exact .inr (.inr license)

/-- The proposal asks for what the lists give reason for. -/
structure ProjectAnalysis.Proposed (analysis : ProjectAnalysis) : Prop where
  providerManifest : analysis.proposal.providerManifest = true ↔
    ∃ text, analysis.Tells (.listed .entrypoints text)
  modelSpec : analysis.proposal.modelSpec = true ↔
    ∃ text, analysis.Tells (.listed .modelAssets text)

theorem proposed_iff {texts : List String} :
    decide (texts ≠ []) = true ↔ ∃ text, text ∈ texts := by
  rw [decide_eq_true_iff, ne_eq, List.eq_nil_iff_forall_not_mem, not_forall_not]

theorem concluded_proposed (analysis : ProjectAnalysis) : analysis.concluded.Proposed where
  providerManifest := proposed_iff
  modelSpec := proposed_iff

/-- A scan ends, whatever the folders are. Its analysis tells exactly what the root shows, in
sorted lists, or is full of files and says so. -/
theorem scan_exact (fs : ProjectFiles) (path : List String) :
    ∃ outcome, (∃ enough, ∀ fuel, enough < fuel → analyzeProject fs fuel path = some outcome) ∧
      ∀ analysis, outcome = .ok analysis →
        ∃ root, fs.canonicalize path = .ok root ∧ fs.isDir root = true ∧
          (∀ list, (analysis.listed list).Pairwise (· < ·)) ∧ analysis.Proposed ∧
          ((∀ fact, analysis.Tells fact ↔ ScanShows fs root fact) ∨
            analysis.filesScanned = maxFiles ∧ analysis.Tells (.warning limitWarning) ∧
              ∀ fact, analysis.Tells fact → FolderShows fs root root 0 fact ∨
                fact = .warning limitWarning ∨ fact = .warning licenseWarning) := by
  unfold analyzeProject
  cases canonical : fs.canonicalize path with
  | error error =>
      refine ⟨.error error, ⟨0, fun _ _ => rfl⟩, ?_⟩
      rintro analysis ⟨⟩
  | ok root =>
      by_cases folder : fs.isDir root = true
      · simp only [folder, if_true]
        obtain ⟨outcome, walked⟩ :=
          walkStack_scanFolder fs root { root := "/" ++ String.intercalate "/" root }
        refine ⟨outcome.map ProjectAnalysis.concluded,
          ⟨visitsBelow fs (root, 0), fun fuel enough => ?_⟩, ?_⟩
        · rw [walked fuel enough, Option.map_some]
        · intro analysis concluded
          cases outcome with
          | error error => cases concluded
          | ok last =>
              cases concluded
              refine ⟨root, rfl, folder, ?_, concluded_proposed last, ?_⟩
              · intro list
                rw [listed_concluded]
                exact collated_pairwise _
              · rcases underway_start.walk (walked _ (Nat.lt_succ_self _)) with under | full
                · exact .inl fun fact => concluded_done under
                · exact .inr (concluded_full full)
      · simp only [folder]
        refine ⟨.error _, ⟨0, fun _ _ => rfl⟩, ?_⟩
        rintro analysis ⟨⟩

/-! ### What the scan opens -/

/-- The files that the scan opens: manifests of a bounded size. -/
def ScanOpens (fs : ProjectFiles) (path : List String) : Prop :=
  ∃ size, fs.symlinkMetadata path = .ok (.file size) ∧
    ProjectList.dependencyManifests.lists path = true ∧ size ≤ maxManifestBytes

/-- Two file systems that differ at most in what is in the files that the scan of one of
them does not open. -/
structure ScansAlike (fs other : ProjectFiles) : Prop where
  canonicalize : other.canonicalize = fs.canonicalize
  isDir : other.isDir = fs.isDir
  readDir : other.readDir = fs.readDir
  symlinkMetadata : other.symlinkMetadata = fs.symlinkMetadata
  readToString : ∀ path, ScanOpens fs path → other.readToString path = fs.readToString path

section Contents

variable {other : ProjectFiles}

theorem ScansAlike.frameworksOf (alike : ScansAlike fs other) {path : List String} {size : Nat}
    (kind : fs.symlinkMetadata path = .ok (.file size)) :
    frameworksOf other path size = frameworksOf fs path size := by
  unfold NousKernel.frameworksOf
  by_cases opened : ProjectList.dependencyManifests.lists path = true ∧ size ≤ maxManifestBytes
  · rw [alike.readToString path ⟨size, kind, opened⟩]
  · have closed : (ProjectList.dependencyManifests.lists path && size ≤ maxManifestBytes) =
        false := by
      simpa using opened
    rw [closed, if_neg Bool.false_ne_true, if_neg Bool.false_ne_true]

theorem ScansAlike.classifyFile (alike : ScansAlike fs other) {path : List String} {size : Nat}
    {analysis : ProjectAnalysis} (kind : fs.symlinkMetadata path = .ok (.file size)) :
    classifyFile other root path size analysis = classifyFile fs root path size analysis := by
  unfold NousKernel.classifyFile
  rw [alike.frameworksOf kind]

theorem ScansAlike.scanEntries (alike : ScansAlike fs other) {entries : List (Except String String)}
    {found : List PendingFolder} {analysis : ProjectAnalysis} :
    scanEntries other root folder depth entries found analysis =
      scanEntries fs root folder depth entries found analysis := by
  induction entries generalizing found analysis with
  | nil => rfl
  | cons entry entries ih =>
      unfold NousKernel.scanEntries
      rw [alike.symlinkMetadata]
      by_cases full : maxFiles ≤ analysis.filesScanned
      · rw [if_pos full, if_pos full]
      · rw [if_neg full, if_neg full]
        cases entry with
        | error error => rfl
        | ok name =>
            cases kind : fs.symlinkMetadata (folder ++ [name]) with
            | error error => simp only [kind]
            | ok shape =>
                simp only [kind]
                cases shape with
                | file size =>
                    simp only
                    rw [alike.classifyFile kind]
                    exact ih
                | symlink => exact ih
                | folder => exact ih
                | other => exact ih

theorem ScansAlike.scanFolder (alike : ScansAlike fs other) :
    scanFolder other root = scanFolder fs root := by
  funext pending analysis
  unfold NousKernel.scanFolder
  rw [alike.readDir]
  by_cases deep : maxDepth < pending.2
  · rw [if_pos deep, if_pos deep]
  · rw [if_neg deep, if_neg deep]
    cases fs.readDir pending.1 with
    | error error => rfl
    | ok entries => exact alike.scanEntries

end Contents

/-- A folder with a manifest and a model, whose weights are as told. -/
def modelFolder (weights : Option String) : ProjectFiles where
  canonicalize := .ok
  isDir _ := true
  readDir _ := .ok [.ok "Cargo.toml", .ok "model.gguf"]
  symlinkMetadata path :=
    if path = ["model", "Cargo.toml"] then .ok (.file 120)
    else if path = ["model", "model.gguf"] then .ok (.file 4000000000)
    else .error "No such file or directory"
  readToString path :=
    if path = ["model", "Cargo.toml"] then some "serde = 1"
    else if path = ["model", "model.gguf"] then weights
    else none

theorem not_opens_weights {weights : Option String} :
    ¬ScanOpens (modelFolder weights) ["model", "model.gguf"] := by
  rintro ⟨size, kind, manifest, small⟩
  exact absurd manifest (by decide)

theorem alike_modelFolder : ScansAlike (modelFolder none) (modelFolder (some "GGUF")) where
  canonicalize := rfl
  isDir := rfl
  readDir := rfl
  symlinkMetadata := rfl
  readToString path opened := by
    have other : path ≠ ["model", "model.gguf"] := by
      rintro rfl
      exact not_opens_weights opened
    simp only [modelFolder, if_neg other]

end NousKernel
