import NousKernel.Containment
import NousKernel.Security

/-!
What grants confine. A path is below another by its names, and a host below another by
its labels; the manifest's tests compare texts. They agree where a granted path ends at
a separator of the path, nothing behind it climbs out, and a granted host ends the
destination behind a dot.
-/

set_option autoImplicit false

namespace NousKernel

open Containment

/-- The names of a path as `Path::components` reads it: a repeated separator and "." are none. -/
def pathNames (path : String) : List (List Char) :=
  (path.toList.splitOn '/').filter fun name => name ≠ [] ∧ name ≠ ['.']

def isAbsolute (path : String) : Bool := path.toList.head? = some '/'

/-- The step to the parent. -/
def parentDir : List Char := ['.', '.']

/-- The names of `base`, then names that never climb back over them. -/
def Below (base path : String) : Prop :=
  isAbsolute base = isAbsolute path ∧
    ∃ rest, pathNames path = pathNames base ++ rest ∧ Stays parentDir rest

def labels (host : String) : List (List Char) := host.toList.splitOn '.'

def Subdomain (parent host : String) : Prop :=
  ∃ front, front ≠ [] ∧ labels host = front ++ labels parent

def PathConfined (capability : String) (grants : List CapabilityGrant) (path : String) : Prop :=
  ∃ g ∈ grants, g.capability = capability ∧ ∃ p ∈ g.paths, Below p path

def HostConfined (grants : List CapabilityGrant) (host : String) : Prop :=
  ∃ g ∈ grants, g.capability = "network" ∧ ∃ h ∈ g.hosts, host = h ∨ Subdomain h host

structure CapabilityManifest.Confined (manifest : CapabilityManifest)
    (grants : List CapabilityGrant) : Prop where
  reads : ∀ path ∈ manifest.reads, PathConfined "read" grants path
  writes : ∀ path ∈ manifest.writes, PathConfined "write" grants path
  hosts : ∀ host ∈ manifest.networkDestinations, HostConfined grants host

/-- With every name closed by a separator the granted path starts the path, and in what
follows no part has more ".." than other names. -/
def pathSeparated (base path : String) : Bool :=
  isAbsolute base == isAbsolute path &&
    line '/' (pathNames base) <+: line '/' (pathNames path) &&
    balanced parentDir ((pathNames path).drop (pathNames base).length)

/-- The granted host is the destination, or ends it behind a dot. -/
def hostSeparated (granted host : String) : Bool :=
  host == granted || '.' :: granted.toList <:+ host.toList

structure CapabilityManifest.Separated (manifest : CapabilityManifest)
    (grants : List CapabilityGrant) : Prop where
  reads : ∀ path ∈ manifest.reads, ∃ g ∈ grants, g.capability = "read" ∧
    ∃ p ∈ g.paths, pathSeparated p path = true
  writes : ∀ path ∈ manifest.writes, ∃ g ∈ grants, g.capability = "write" ∧
    ∃ p ∈ g.paths, pathSeparated p path = true
  hosts : ∀ host ∈ manifest.networkDestinations, ∃ g ∈ grants, g.capability = "network" ∧
    ∃ h ∈ g.hosts, hostSeparated h host = true

section Texts

theorem mem_pathNames (path : String) (name : List Char) (member : name ∈ pathNames path) :
    '/' ∉ name :=
  not_mem_of_mem_splitOn (List.mem_filter.mp member).1

theorem below_iff (base path : String) : Below base path ↔ pathSeparated base path = true := by
  have prefixes := line_prefix_iff (mem_pathNames base) (mem_pathNames path)
  rw [pathSeparated, Bool.and_eq_true, Bool.and_eq_true, beq_iff_eq, decide_eq_true_eq, prefixes,
    ← stays_iff, Below, and_assoc]
  constructor
  · rintro ⟨root, rest, names, stays⟩
    rw [names, List.drop_left]
    exact ⟨root, List.prefix_append _ _, stays⟩
  · rintro ⟨root, ⟨rest, names⟩, stays⟩
    rw [← names, List.drop_left] at stays
    exact ⟨root, rest, names.symm, stays⟩

theorem subdomain_iff (parent host : String) :
    (host = parent ∨ Subdomain parent host) ↔ hostSeparated parent host = true := by
  rw [hostSeparated, Bool.or_eq_true, beq_iff_eq, decide_eq_true_eq, Subdomain, labels, labels,
    pieces_suffix_iff]

theorem CapabilityManifest.confined_iff (manifest : CapabilityManifest)
    (grants : List CapabilityGrant) : manifest.Confined grants ↔ manifest.Separated grants := by
  constructor
  · intro confined
    refine ⟨fun path member => ?_, fun path member => ?_, fun host member => ?_⟩
    · simpa only [PathConfined, below_iff] using confined.reads path member
    · simpa only [PathConfined, below_iff] using confined.writes path member
    · simpa only [HostConfined, subdomain_iff] using confined.hosts host member
  · intro separated
    refine ⟨fun path member => ?_, fun path member => ?_, fun host member => ?_⟩
    · simpa only [PathConfined, below_iff] using separated.reads path member
    · simpa only [PathConfined, below_iff] using separated.writes path member
    · simpa only [HostConfined, subdomain_iff] using separated.hosts host member

end Texts

theorem sibling_path_accepted :
    ¬∀ (manifest : CapabilityManifest) (grants : List CapabilityGrant),
      manifest.validate grants = .ok () → manifest.Confined grants := by
  intro confines
  have confined := confines { reads := ["/database"] }
    [{ principalId := "user", capability := "read", paths := ["/data"] }] (by decide)
  rw [CapabilityManifest.confined_iff] at confined
  have separated := confined.reads "/database" (List.mem_singleton.mpr rfl)
  revert separated
  decide

section Grants

theorem exists_bound {α : Type} (size : α → Nat) (values : List α) :
    ∃ bound, ∀ value ∈ values, size value ≤ bound := by
  induction values with
  | nil => exact ⟨0, fun value member => absurd member List.not_mem_nil⟩
  | cons first rest ih =>
      obtain ⟨bound, all⟩ := ih
      refine ⟨size first + bound, fun value member => ?_⟩
      rcases List.mem_cons.mp member with rfl | later
      · exact Nat.le_add_right _ _
      · exact (all value later).trans (Nat.le_add_left _ _)

/-- The path that goes on from `base` with steps to the parent only. -/
def climbing (base : String) (ups : Nat) : String :=
  String.ofList (base.toList ++ '/' :: line '/' (List.replicate ups parentDir))

theorem startsWith_climbing (base : String) (ups : Nat) :
    startsWith (climbing base ups) base = true := by
  rw [startsWith, climbing, String.toList_ofList, decide_eq_true_eq]
  exact List.prefix_append _ _

theorem pathNames_climbing (base : String) (ups : Nat) :
    pathNames (climbing base ups) = pathNames base ++ List.replicate ups parentDir := by
  have plain : ∀ name ∈ List.replicate ups parentDir, '/' ∉ name := by
    intro name member
    rw [(List.mem_replicate.mp member).2, parentDir]
    decide
  have kept : ∀ name ∈ List.replicate ups parentDir,
      decide (name ≠ [] ∧ name ≠ ['.']) = true := by
    intro name member
    rw [(List.mem_replicate.mp member).2, parentDir]
    decide
  rw [pathNames, climbing, String.toList_ofList, List.splitOn_append_cons_self, splitOn_line plain,
    List.filter_append, List.filter_append, List.filter_eq_self.mpr kept]
  simp [pathNames]

/-- Enough steps to the parent leave every path of a list. -/
theorem exists_escape (base : String) (paths : List String) (granted : base ∈ paths) :
    ∃ ups, ∀ p ∈ paths, ¬Below p (climbing base ups) := by
  obtain ⟨bound, all⟩ := exists_bound (fun p => (pathNames p).length) paths
  refine ⟨2 * bound + 1, fun p member below => ?_⟩
  obtain ⟨root, rest, names, stays⟩ := below
  rw [pathNames_climbing] at names
  have few := stays.ups_le names
  have one := all base granted
  have other := all p member
  omega

/-- A host that goes on from a granted one without a dot. -/
def overgrown (host : String) (letters : Nat) : String :=
  String.ofList (host.toList ++ List.replicate letters 'x')

theorem exists_foreign_host (host : String) (hosts : List String) :
    ∃ letters, ∀ h ∈ hosts, ¬(overgrown host letters = h ∨ Subdomain h (overgrown host letters)) := by
  obtain ⟨bound, all⟩ := exists_bound (fun h : String => h.toList.length) hosts
  refine ⟨bound + 1, fun h member near => ?_⟩
  have short := all h member
  rcases near with equal | under
  · have lengths := congrArg (fun text : String => text.toList.length) equal
    simp only [overgrown, String.toList_ofList, List.length_append, List.length_replicate] at lengths
    omega
  · rw [Subdomain, labels, labels, pieces_suffix_iff, overgrown, String.toList_ofList] at under
    have inside : '.' :: h.toList <:+ List.replicate (bound + 1) 'x' := by
      refine List.suffix_of_suffix_length_le under (List.suffix_append _ _) ?_
      rw [List.length_cons, List.length_replicate]
      omega
    have dot := (List.mem_replicate.mp (inside.subset (.head _))).2
    exact absurd dot (by decide)

variable {capability : String} {grants : List CapabilityGrant} {g : CapabilityGrant}

/-- A granted path lets a path pass that climbs out of everything that is granted. -/
theorem exists_path_unconfined (held : g ∈ grants) (named : g.capability = capability)
    (some : g.paths ≠ []) : ∃ path, CapabilityManifest.pathGranted capability grants path = true ∧
      ¬PathConfined capability grants path := by
  obtain ⟨base, granted⟩ := List.exists_mem_of_ne_nil _ some
  obtain ⟨ups, escapes⟩ := exists_escape base (grants.flatMap (·.paths))
    (List.mem_flatMap.mpr ⟨g, held, granted⟩)
  refine ⟨climbing base ups, ?_, ?_⟩
  · exact CapabilityManifest.pathGranted_iff.mpr
      ⟨g, held, named, base, granted, startsWith_climbing base ups⟩
  · rintro ⟨other, member, -, p, path, below⟩
    exact escapes p (List.mem_flatMap.mpr ⟨other, member, path⟩) below

/-- A granted host lets a host pass that merely contains it. -/
theorem exists_host_unconfined (held : g ∈ grants) (named : g.capability = "network")
    (some : g.hosts ≠ []) : ∃ host, CapabilityManifest.hostGranted grants host = true ∧
      ¬HostConfined grants host := by
  obtain ⟨host, granted⟩ := List.exists_mem_of_ne_nil _ some
  obtain ⟨letters, foreign⟩ := exists_foreign_host host (grants.flatMap (·.hosts))
  refine ⟨overgrown host letters, ?_, ?_⟩
  · have part : containsText (overgrown host letters) host = true := by
      rw [containsText, overgrown, String.toList_ofList, decide_eq_true_eq]
      exact (List.prefix_append _ _).isInfix
    exact CapabilityManifest.hostGranted_iff.mpr ⟨g, held, named, host, granted, .inl part⟩
  · rintro ⟨other, member, -, h, listed, near⟩
    exact foreign h (List.mem_flatMap.mpr ⟨other, member, listed⟩) near

/-- Where no path is granted none passes. -/
theorem pathGranted_bare (bare : ∀ g ∈ grants, g.capability = capability → g.paths = [])
    (path : String) : ¬CapabilityManifest.pathGranted capability grants path = true := by
  rw [CapabilityManifest.pathGranted_iff]
  rintro ⟨g, held, named, p, granted, -⟩
  rw [bare g held named] at granted
  exact absurd granted List.not_mem_nil

theorem hostGranted_bare (bare : ∀ g ∈ grants, g.capability = "network" → g.hosts = [])
    (host : String) : ¬CapabilityManifest.hostGranted grants host = true := by
  rw [CapabilityManifest.hostGranted_iff]
  rintro ⟨g, held, named, h, granted, -⟩
  rw [bare g held named] at granted
  exact absurd granted List.not_mem_nil

/-- The grants for which acceptance confines every manifest: those that grant no path
and no host at all. -/
theorem grants_confine_iff (grants : List CapabilityGrant) :
    (∀ manifest : CapabilityManifest, manifest.validate grants = .ok () → manifest.Confined grants) ↔
      ∀ g ∈ grants, (g.capability = "read" ∨ g.capability = "write" → g.paths = []) ∧
        (g.capability = "network" → g.hosts = []) := by
  constructor
  · intro confines g held
    constructor
    · intro named
      by_contra some
      rcases named with named | named
      · obtain ⟨path, granted, unconfined⟩ := exists_path_unconfined held named some
        have passes : CapabilityManifest.Passes { reads := [path] } grants :=
          ⟨List.forall_mem_singleton.mpr granted, nofun, nofun, rfl⟩
        have confined := confines _ (CapabilityManifest.validate_ok.mpr passes)
        exact unconfined (confined.reads path (List.mem_singleton_self path))
      · obtain ⟨path, granted, unconfined⟩ := exists_path_unconfined held named some
        have passes : CapabilityManifest.Passes { writes := [path] } grants :=
          ⟨nofun, List.forall_mem_singleton.mpr granted, nofun, rfl⟩
        have confined := confines _ (CapabilityManifest.validate_ok.mpr passes)
        exact unconfined (confined.writes path (List.mem_singleton_self path))
    · intro named
      by_contra some
      obtain ⟨host, granted, unconfined⟩ := exists_host_unconfined held named some
      have passes : CapabilityManifest.Passes { networkDestinations := [host] } grants :=
        ⟨nofun, nofun, List.forall_mem_singleton.mpr granted, rfl⟩
      have confined := confines _ (CapabilityManifest.validate_ok.mpr passes)
      exact unconfined (confined.hosts host (List.mem_singleton_self host))
  · intro bare manifest accepted
    have passes := CapabilityManifest.validate_ok.mp accepted
    refine ⟨fun path member => ?_, fun path member => ?_, fun host member => ?_⟩
    · exact absurd (passes.reads path member)
        (pathGranted_bare (fun g held named => (bare g held).1 (.inl named)) path)
    · exact absurd (passes.writes path member)
        (pathGranted_bare (fun g held named => (bare g held).1 (.inr named)) path)
    · exact absurd (passes.hosts host member)
        (hostGranted_bare (fun g held named => (bare g held).2 named) host)

end Grants

end NousKernel
