import Mathlib.Data.Finset.Basic
import NousKernel.ControlPlane
import NousKernel.Merging
import NousKernel.StackWalk

/-!
The scan of a project (`analyze_project` in `nous-intelligence/src/project.rs`): a walk over
the folders below its root, which follows no symlink, skips generated folders and is bounded
in depth and in files. The file system stays as it is meanwhile. What the analysis tells of
the project is told whole, or the analysis says where it ended.
-/

set_option autoImplicit false

namespace NousKernel

open StackWalk

/-! ### The file system -/

inductive FileKind where
  | symlink
  | folder
  | file (size : Nat)
  | other
  deriving DecidableEq

/-- What a scan asks of the file system. A path is the list of its names, which are text. -/
structure ProjectFiles where
  canonicalize : List String → Except String (List String)
  isDir : List String → Bool
  readDir : List String → Except String (List (Except String String))
  symlinkMetadata : List String → Except String FileKind
  readToString : List String → Option String

/-! ### Names -/

def lowercased (text : String) : String := String.ofList (text.toList.map toAsciiLowercase)

/-- `Path::extension` of a file name: what follows its last dot, but for a dot in front. -/
def extensionOf (name : String) : String :=
  let (ending, front) := name.toList.reverse.span (· ≠ '.')
  if front.drop 1 = [] then "" else String.ofList ending.reverse

def displayRelative (root path : List String) : String :=
  let shown :=
    if root <+: path then String.intercalate "/" (path.drop root.length)
    else "/" ++ String.intercalate "/" path
  String.ofList (shown.toList.map fun c => if c = '\\' then '/' else c)

def fileName (path : List String) : String := path.getLast?.getD ""

/-! ### The analysis -/

/-- The lists of paths in an analysis. -/
inductive ProjectList where
  | dependencyManifests
  | entrypoints
  | modelAssets
  | containerFiles
  | testFiles
  | licenseFiles
  deriving DecidableEq

structure MigrationProposal where
  adapterFirst : Bool := true
  providerManifest : Bool := false
  modelSpec : Bool := false
  packManifest : Bool := true
  workflowTemplate : Bool := false
  userReviewRequired : Bool := true
  recommendations : List String := []

structure ProjectAnalysis where
  root : String
  filesScanned : Nat := 0
  languages : Finset String := ∅
  dependencyManifests : List String := []
  entrypoints : List String := []
  modelAssets : List String := []
  containerFiles : List String := []
  testFiles : List String := []
  licenseFiles : List String := []
  frameworks : Finset String := ∅
  proposal : MigrationProposal := {}
  warnings : List String := []

def ProjectAnalysis.listed (analysis : ProjectAnalysis) : ProjectList → List String
  | .dependencyManifests => analysis.dependencyManifests
  | .entrypoints => analysis.entrypoints
  | .modelAssets => analysis.modelAssets
  | .containerFiles => analysis.containerFiles
  | .testFiles => analysis.testFiles
  | .licenseFiles => analysis.licenseFiles

def ProjectAnalysis.warn (analysis : ProjectAnalysis) (text : String) : ProjectAnalysis :=
  { analysis with warnings := analysis.warnings ++ [text] }

/-! ### One file -/

def languageOf (ending : String) : Option String :=
  if ending = "py" then some "Python"
  else if ending = "rs" then some "Rust"
  else if ending ∈ ["c", "h"] then some "C"
  else if ending ∈ ["cc", "cpp", "cxx", "hpp"] then some "C++"
  else if ending ∈ ["js", "jsx"] then some "JavaScript"
  else if ending ∈ ["ts", "tsx"] then some "TypeScript"
  else if ending = "go" then some "Go"
  else if ending = "java" then some "Java"
  else none

def frameworkNeedles : List (String × String) := [
  ("torch", "PyTorch"), ("transformers", "Transformers"), ("tensorflow", "TensorFlow"),
  ("onnxruntime", "ONNX Runtime"), ("numpy", "NumPy"), ("scipy", "SciPy"),
  ("fastapi", "FastAPI"), ("flask", "Flask"), ("tokio", "Tokio"), ("serde", "Serde")]

def maxManifestBytes : Nat := 1048576

/-- Whether a file belongs to a list, by its name, its extension and its path. The path is
the whole one, the root and what is above it included. -/
def ProjectList.lists (path : List String) : ProjectList → Bool
  | .dependencyManifests => lowercased (fileName path) ∈ ["pyproject.toml", "requirements.txt",
      "setup.py", "cargo.toml", "package.json", "package-lock.json", "poetry.lock", "uv.lock",
      "cmakelists.txt", "go.mod"]
  | .entrypoints => lowercased (fileName path) ∈
      ["main.py", "app.py", "cli.py", "main.rs", "lib.rs", "index.js", "index.ts"]
  | .modelAssets => lowercased (extensionOf (fileName path)) ∈
      ["onnx", "safetensors", "gguf", "pt", "pth", "ckpt"]
  | .containerFiles => lowercased (fileName path) = "dockerfile" ||
      (lowercased (fileName path)).startsWith "docker-compose"
  | .testFiles => (lowercased (fileName path)).startsWith "test_" ||
      (lowercased (fileName path)).endsWith "_test.rs" || "tests" ∈ path
  | .licenseFiles => lowercased (fileName path) = "license" ||
      (lowercased (fileName path)).startsWith "license." ||
      (lowercased (fileName path)).startsWith "copying"

/-- The frameworks that a dependency manifest names. One that is too large is not read. -/
def frameworksOf (fs : ProjectFiles) (path : List String) (size : Nat) : List String :=
  if ProjectList.dependencyManifests.lists path && size ≤ maxManifestBytes then
    (frameworkNeedles.filter fun pair =>
      containsText (lowercased ((fs.readToString path).getD "")) pair.1).map (·.2)
  else []

def classifyFile (fs : ProjectFiles) (root path : List String) (size : Nat)
    (analysis : ProjectAnalysis) : ProjectAnalysis :=
  let relative (list : ProjectList) : List String :=
    if list.lists path then [displayRelative root path] else []
  { analysis with
    languages :=
      analysis.languages ∪ (languageOf (lowercased (extensionOf (fileName path)))).toFinset
    frameworks := analysis.frameworks ∪ (frameworksOf fs path size).toFinset
    dependencyManifests := analysis.dependencyManifests ++ relative .dependencyManifests
    entrypoints := analysis.entrypoints ++ relative .entrypoints
    modelAssets := analysis.modelAssets ++ relative .modelAssets
    containerFiles := analysis.containerFiles ++ relative .containerFiles
    testFiles := analysis.testFiles ++ relative .testFiles
    licenseFiles := analysis.licenseFiles ++ relative .licenseFiles }

/-! ### The walk -/

def maxFiles : Nat := 20000

def maxDepth : Nat := 24

def skippedFolders : List String :=
  [".git", ".nous", ".venv", "node_modules", "target", "dist", "build", "__pycache__",
    ".pytest_cache"]

def depthWarning (root folder : List String) : String :=
  "depth limit reached at " ++ displayRelative root folder

def symlinkWarning (root path : List String) : String :=
  "symlink not followed: " ++ displayRelative root path

def limitWarning : String := "file limit reached (20000)"

def licenseWarning : String :=
  "no top-level license file was detected; manual license review is required"

abbrev PendingFolder : Type := List String × Nat

/-- The entries of one folder. The last folder that is found is visited first. -/
def scanEntries (fs : ProjectFiles) (root folder : List String) (depth : Nat) :
    List (Except String String) → List PendingFolder → ProjectAnalysis →
      Except String (Visit PendingFolder ProjectAnalysis)
  | [], found, analysis => .ok (.goOn found analysis)
  | entry :: rest, found, analysis =>
      if maxFiles ≤ analysis.filesScanned then .ok (.stop (analysis.warn limitWarning))
      else
        match entry with
        | .error error => .error error
        | .ok name =>
            match fs.symlinkMetadata (folder ++ [name]) with
            | .error error => .error error
            | .ok .symlink =>
                scanEntries fs root folder depth rest found
                  (analysis.warn (symlinkWarning root (folder ++ [name])))
            | .ok .folder =>
                scanEntries fs root folder depth rest
                  (if name ∈ skippedFolders then found
                    else (folder ++ [name], depth + 1) :: found) analysis
            | .ok .other => scanEntries fs root folder depth rest found analysis
            | .ok (.file size) =>
                scanEntries fs root folder depth rest found
                  (classifyFile fs root (folder ++ [name]) size
                    { analysis with filesScanned := analysis.filesScanned + 1 })

def scanFolder (fs : ProjectFiles) (root : List String) (pending : PendingFolder)
    (analysis : ProjectAnalysis) : Except String (Visit PendingFolder ProjectAnalysis) :=
  if maxDepth < pending.2 then .ok (.goOn [] (analysis.warn (depthWarning root pending.1)))
  else
    match fs.readDir pending.1 with
    | .error error => .error error
    | .ok entries => scanEntries fs root pending.1 pending.2 entries [] analysis

def adapterRecommendation : String :=
  "wrap an existing entrypoint with a ProviderManifest adapter"

def licenseRecommendation : String :=
  "inspect model licenses and generate ModelSpec references without copying weights"

/-- What becomes of the collected lists. -/
def ProjectAnalysis.concluded (analysis : ProjectAnalysis) : ProjectAnalysis :=
  let entrypoints := collated analysis.entrypoints
  let modelAssets := collated analysis.modelAssets
  let licenseFiles := collated analysis.licenseFiles
  let warnings := collated analysis.warnings
  let recommendations :=
    (if entrypoints ≠ [] then [adapterRecommendation] else []) ++
      if modelAssets ≠ [] then [licenseRecommendation] else []
  { analysis with
    dependencyManifests := collated analysis.dependencyManifests
    entrypoints := entrypoints
    modelAssets := modelAssets
    containerFiles := collated analysis.containerFiles
    testFiles := collated analysis.testFiles
    licenseFiles := licenseFiles
    proposal :=
      { analysis.proposal with
        providerManifest := entrypoints ≠ []
        modelSpec := modelAssets ≠ []
        workflowTemplate := 1 < entrypoints.length || (entrypoints ≠ [] && modelAssets ≠ [])
        recommendations := sortTexts recommendations }
    warnings := sortTexts (warnings ++ if licenseFiles = [] then [licenseWarning] else []) }

/-- The analysis, or nothing where the fuel of the walk does not suffice. -/
def analyzeProject (fs : ProjectFiles) (fuel : Nat) (path : List String) :
    Option (Except String ProjectAnalysis) :=
  match fs.canonicalize path with
  | .error error => some (.error error)
  | .ok root =>
      if fs.isDir root then
        (walkStack (scanFolder fs root) fuel [(root, 0)]
          { root := "/" ++ String.intercalate "/" root }).map
            (·.map ProjectAnalysis.concluded)
      else some (.error "project root must be a directory")

end NousKernel
