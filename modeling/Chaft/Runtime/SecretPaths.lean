import Chaft.Library.SlashPath
import Chaft.Runtime.RuntimeError

/-!
# Paths of secret files

The runtime keeps keys and group states in files below one directory.  The names of
the files and of the directories between are made of identifiers, which may come
from peers.
-/

namespace Chaft

open SlashPath

/-! ## Builders -/

def jsonFile (stem : String) : List Char :=
  stem.toList ++ ".json".toList

section Builders

variable (workspaceKeysDir : List Char)

def workspaceKeyPath (workspaceId : WorkspaceId) : List Char :=
  join workspaceKeysDir (jsonFile workspaceId.text)

def channelKeyPath (workspaceId : WorkspaceId) (channelId : ChannelId) : List Char :=
  join (join (join workspaceKeysDir workspaceId.text.toList) "channels".toList)
    (jsonFile channelId.text)

def openmlsKeyPackagePath (workspaceId : WorkspaceId) (keyPackageRef : String) : List Char :=
  join (join (join workspaceKeysDir workspaceId.text.toList) "mls-key-packages".toList)
    (jsonFile keyPackageRef)

def openmlsWorkspaceGroupPath (workspaceId : WorkspaceId) : List Char :=
  join (join (join workspaceKeysDir workspaceId.text.toList) "mls-groups".toList)
    "workspace.json".toList

def openmlsChannelGroupsDir (workspaceId : WorkspaceId) : List Char :=
  join (join (join workspaceKeysDir workspaceId.text.toList) "mls-groups".toList)
    "channels".toList

def openmlsChannelGroupPath (workspaceId : WorkspaceId) (channelId : ChannelId) : List Char :=
  join (openmlsChannelGroupsDir workspaceKeysDir workspaceId) (jsonFile channelId.text)

end Builders

/-- A call of one of the builders. -/
inductive SecretFile where
  | workspaceKey (workspaceId : WorkspaceId)
  | channelKey (workspaceId : WorkspaceId) (channelId : ChannelId)
  | openmlsKeyPackage (workspaceId : WorkspaceId) (keyPackageRef : String)
  | openmlsWorkspaceGroup (workspaceId : WorkspaceId)
  | openmlsChannelGroup (workspaceId : WorkspaceId) (channelId : ChannelId)
  deriving DecidableEq

namespace SecretFile

def path (workspaceKeysDir : List Char) : SecretFile → List Char
  | workspaceKey workspaceId => workspaceKeyPath workspaceKeysDir workspaceId
  | channelKey workspaceId channelId => channelKeyPath workspaceKeysDir workspaceId channelId
  | openmlsKeyPackage workspaceId keyPackageRef =>
      openmlsKeyPackagePath workspaceKeysDir workspaceId keyPackageRef
  | openmlsWorkspaceGroup workspaceId => openmlsWorkspaceGroupPath workspaceKeysDir workspaceId
  | openmlsChannelGroup workspaceId channelId =>
      openmlsChannelGroupPath workspaceKeysDir workspaceId channelId

/-- The identifiers pass the checks of the core and of the runtime. -/
def Accepted : SecretFile → Prop
  | workspaceKey workspaceId | openmlsWorkspaceGroup workspaceId =>
      validateWorkspaceIdSize "workspace ID" workspaceId = .ok () ∧
        validateWorkspaceIdReference workspaceId = .ok ()
  | channelKey workspaceId channelId | openmlsChannelGroup workspaceId channelId =>
      validateWorkspaceIdSize "workspace ID" workspaceId = .ok () ∧
        validateWorkspaceIdReference workspaceId = .ok () ∧
        validateChannelIdSize "channel ID" channelId = .ok () ∧
        validateChannelIdReference channelId = .ok ()
  | openmlsKeyPackage workspaceId keyPackageRef =>
      validateWorkspaceIdSize "workspace ID" workspaceId = .ok () ∧
        validateWorkspaceIdReference workspaceId = .ok () ∧
        validateEventTextSize "OpenMLS key package ref" keyPackageRef
          openmlsKeyPackageRefMaxBytes = .ok ()

instance (file : SecretFile) : Decidable file.Accepted := by
  cases file <;> unfold Accepted <;> exact inferInstance

/-- Two calls give places below the directory, and the same place only if they are
the same call. -/
def KeptApart (here : Place) (workspaceKeysDir : List Char) (left right : SecretFile) : Prop :=
  Below (resolve here workspaceKeysDir) (resolve here (left.path workspaceKeysDir)) ∧
    Below (resolve here workspaceKeysDir) (resolve here (right.path workspaceKeysDir)) ∧
    (resolve here (left.path workspaceKeysDir) = resolve here (right.path workspaceKeysDir) →
      left = right)

/-! ## Routes below the directory -/

/-- The directories that are joined to the common one, in order. -/
def directories : SecretFile → List (List Char)
  | workspaceKey _ => []
  | channelKey workspaceId _ => [workspaceId.text.toList, "channels".toList]
  | openmlsKeyPackage workspaceId _ => [workspaceId.text.toList, "mls-key-packages".toList]
  | openmlsWorkspaceGroup workspaceId => [workspaceId.text.toList, "mls-groups".toList]
  | openmlsChannelGroup workspaceId _ =>
      [workspaceId.text.toList, "mls-groups".toList, "channels".toList]

/-- The name of the file without its ending. -/
def stem : SecretFile → String
  | workspaceKey workspaceId => workspaceId.text
  | channelKey _ channelId | openmlsChannelGroup _ channelId => channelId.text
  | openmlsKeyPackage _ keyPackageRef => keyPackageRef
  | openmlsWorkspaceGroup _ => "workspace"

def pieces (file : SecretFile) : List (List Char) :=
  file.directories ++ [jsonFile file.stem]

theorem path_eq (workspaceKeysDir : List Char) (file : SecretFile) :
    file.path workspaceKeysDir = file.pieces.foldl join workspaceKeysDir := by
  have groupFile : "workspace.json".toList = jsonFile "workspace" := by decide
  cases file with
  | openmlsWorkspaceGroup workspaceId =>
      simp only [path, openmlsWorkspaceGroupPath, groupFile, pieces, directories, stem,
        List.cons_append, List.nil_append, List.foldl_cons, List.foldl_nil]
  | _ => rfl

/-- No identifier is an absolute path. -/
def Relative (file : SecretFile) : Prop :=
  ∀ piece ∈ file.pieces, isAbsolute piece = false

/-- The parts of all pieces. -/
def route (file : SecretFile) : List (List Char) :=
  file.pieces.flatMap parts

/-- The names that are left when parts without effect are dropped. -/
def names (file : SecretFile) : Place :=
  walk [] file.route

/-- No identifier leads out of the directory. -/
def StaysBelow (file : SecretFile) : Prop :=
  file.Relative ∧ stays 0 file.route = true

/-- An identifier that names a directory is a single name, and one that names a file
has no slash. -/
def Named : SecretFile → Prop
  | workspaceKey workspaceId => '/' ∉ workspaceId.text.toList
  | channelKey workspaceId channelId | openmlsChannelGroup workspaceId channelId =>
      IsName workspaceId.text.toList ∧ '/' ∉ channelId.text.toList
  | openmlsKeyPackage workspaceId keyPackageRef =>
      IsName workspaceId.text.toList ∧ '/' ∉ keyPackageRef.toList
  | openmlsWorkspaceGroup workspaceId => IsName workspaceId.text.toList

theorem resolve_path
    {file : SecretFile} (relative : file.Relative) (here : Place) (workspaceKeysDir : List Char) :
    resolve here (file.path workspaceKeysDir) =
      walk (resolve here workspaceKeysDir) file.route := by
  rw [path_eq, resolve_foldl_join here workspaceKeysDir relative, route]

/-- Below its directory, a file that stays there is found by its names. -/
theorem resolve_path_of_staysBelow
    {file : SecretFile} (staysBelow : file.StaysBelow)
    (here : Place) (workspaceKeysDir : List Char) :
    resolve here (file.path workspaceKeysDir) =
      resolve here workspaceKeysDir ++ file.names := by
  have walked := walk_of_stays (resolve here workspaceKeysDir) [] staysBelow.2
  rw [List.append_nil] at walked
  rw [resolve_path staysBelow.1, walked, names]

/-- Every route ends with the name of the file. -/
theorem exists_route_append (file : SecretFile) :
    ∃ front name, file.route = front ++ [name] ∧ IsName name := by
  have jsonNoSlash : '/' ∉ ".json".toList := by decide
  obtain ⟨front, name, split, isName⟩ :=
    parts_append_ending file.stem.toList jsonNoSlash (by decide)
  refine ⟨file.directories.flatMap parts ++ front, name, ?_, isName⟩
  rw [route, pieces, List.flatMap_append, List.flatMap_singleton, jsonFile, split,
    List.append_assoc]

theorem names_ne_nil (file : SecretFile) : file.names ≠ [] := by
  obtain ⟨front, name, split, isName⟩ := file.exists_route_append
  have last := walk_names (walk [] front) (List.forall_mem_singleton.mpr isName)
  rw [names, split, walk_append, last]
  exact List.append_ne_nil_of_right_ne_nil _ (List.cons_ne_nil name [])

/-- A file is below every directory when, and only when, it stays below. -/
theorem below_path_iff (file : SecretFile) :
    (∀ here workspaceKeysDir,
        Below (resolve here workspaceKeysDir) (resolve here (file.path workspaceKeysDir))) ↔
      file.StaysBelow := by
  constructor
  · intro below
    have relative : file.Relative := by
      by_contra notRelative
      obtain ⟨place, same⟩ := exists_resolve_foldl_join notRelative
      obtain ⟨names, -, found⟩ := below (place ++ [[]]) []
      rw [path_eq, same] at found
      have lengths := congrArg List.length found
      change place.length = (place ++ [[]] ++ names).length at lengths
      simp only [List.length_append, List.length_singleton] at lengths
      omega
    refine ⟨relative, ((below_iff file.route).mp ?_).1⟩
    intro directory
    have found := below directory []
    rw [resolve_path relative] at found
    exact found
  · intro staysBelow here workspaceKeysDir
    rw [resolve_path_of_staysBelow staysBelow]
    exact ⟨file.names, file.names_ne_nil, rfl⟩

/-! ## Named files -/

/-- The route of a file whose identifiers are names consists of these names. -/
theorem route_of_named {file : SecretFile} (named : file.Named) :
    file.route = file.pieces ∧ ∀ piece ∈ file.pieces, IsName piece := by
  have stemName : ∀ stem : String, '/' ∉ stem.toList → IsName (jsonFile stem) := by
    intro stem noSlash
    exact isName_append noSlash (by decide) (by decide)
  have allNames : ∀ piece ∈ file.pieces, IsName piece := by
    cases file with
    | workspaceKey workspaceId =>
        exact List.forall_mem_singleton.mpr (stemName _ named)
    | channelKey workspaceId channelId =>
        simp only [pieces, directories, stem, List.cons_append, List.nil_append,
          List.forall_mem_cons]
        exact ⟨named.1, by decide, stemName _ named.2, fun _ member => nomatch member⟩
    | openmlsKeyPackage workspaceId keyPackageRef =>
        simp only [pieces, directories, stem, List.cons_append, List.nil_append,
          List.forall_mem_cons]
        exact ⟨named.1, by decide, stemName _ named.2, fun _ member => nomatch member⟩
    | openmlsWorkspaceGroup workspaceId =>
        simp only [pieces, directories, stem, List.cons_append, List.nil_append,
          List.forall_mem_cons]
        exact ⟨named, by decide, by decide, fun _ member => nomatch member⟩
    | openmlsChannelGroup workspaceId channelId =>
        simp only [pieces, directories, stem, List.cons_append, List.nil_append,
          List.forall_mem_cons]
        exact ⟨named.1, by decide, by decide, stemName _ named.2, fun _ member => nomatch member⟩
  refine ⟨?_, allNames⟩
  rw [route]
  generalize file.pieces = pieces at allNames
  induction pieces with
  | nil => rfl
  | cons piece rest inductionHypothesis =>
      rw [List.forall_mem_cons] at allNames
      rw [List.flatMap_cons, parts_of_no_slash allNames.1.2.1, inductionHypothesis allNames.2]
      rfl

theorem staysBelow_of_named {file : SecretFile} (named : file.Named) :
    file.StaysBelow ∧ file.names = file.pieces := by
  obtain ⟨isRoute, allNames⟩ := route_of_named named
  have walked : ∀ directory, walk directory file.route = directory ++ file.pieces := by
    intro directory
    rw [isRoute]
    exact walk_names directory allNames
  refine ⟨⟨fun piece member => isAbsolute_of_no_slash (allNames piece member).2.1, ?_⟩,
    walked []⟩
  refine ((below_iff file.route).mp ?_).1
  intro directory
  exact ⟨file.pieces, List.append_ne_nil_of_right_ne_nil _ (List.cons_ne_nil _ _),
    walked directory⟩

theorem jsonFile_injective {left right : String} (same : jsonFile left = jsonFile right) :
    left = right :=
  String.toList_injective (List.append_cancel_right same)

/-- Different calls join different pieces. -/
theorem pieces_injective {left right : SecretFile} (same : left.pieces = right.pieces) :
    left = right := by
  obtain ⟨sameDirectories, sameFile⟩ := List.append_inj' same rfl
  have sameStem : left.stem = right.stem := jsonFile_injective (List.singleton_inj.mp sameFile)
  cases left <;> cases right <;>
    simp_all [directories, stem, String.toList_inj, Identifier.text_injective.eq_iff]

/-- Two calls are kept apart in every directory when, and only when, both stay below
it and different calls have different names.  Calls with single names do so. -/
theorem keptApart_iff (left right : SecretFile) :
    ((∀ here workspaceKeysDir, KeptApart here workspaceKeysDir left right) ↔
        left.StaysBelow ∧ right.StaysBelow ∧ (left ≠ right → left.names ≠ right.names)) ∧
      (left.Named → right.Named →
        left.StaysBelow ∧ right.StaysBelow ∧ (left ≠ right → left.names ≠ right.names)) := by
  refine ⟨⟨?_, ?_⟩, ?_⟩
  · intro keptApart
    have leftBelow : left.StaysBelow :=
      left.below_path_iff.mp fun here workspaceKeysDir => (keptApart here workspaceKeysDir).1
    have rightBelow : right.StaysBelow :=
      right.below_path_iff.mp fun here workspaceKeysDir => (keptApart here workspaceKeysDir).2.1
    refine ⟨leftBelow, rightBelow, ?_⟩
    intro different sameNames
    apply different
    apply (keptApart [] []).2.2
    rw [resolve_path_of_staysBelow leftBelow, resolve_path_of_staysBelow rightBelow, sameNames]
  · rintro ⟨leftBelow, rightBelow, separate⟩ here workspaceKeysDir
    refine ⟨left.below_path_iff.mpr leftBelow here workspaceKeysDir,
      right.below_path_iff.mpr rightBelow here workspaceKeysDir, ?_⟩
    intro samePlace
    rw [resolve_path_of_staysBelow leftBelow, resolve_path_of_staysBelow rightBelow] at samePlace
    by_contra different
    exact separate different (List.append_cancel_left samePlace)
  · intro leftNamed rightNamed
    obtain ⟨leftBelow, leftNames⟩ := staysBelow_of_named leftNamed
    obtain ⟨rightBelow, rightNames⟩ := staysBelow_of_named rightNamed
    refine ⟨leftBelow, rightBelow, ?_⟩
    intro different sameNames
    rw [leftNames, rightNames] at sameNames
    exact different (pieces_injective sameNames)

/-- Accepted identifiers can lead out of the directory: the key of this workspace lies
where the runtime keeps the identity of the device. -/
theorem not_keptApart :
    ¬ ∀ (here : Place) (workspaceKeysDir : List Char) (left right : SecretFile),
        left.Accepted → right.Accepted → KeptApart here workspaceKeysDir left right := by
  intro always
  have accepted : (workspaceKey ⟨"../device"⟩).Accepted := by decide +kernel
  have outside :
      resolve [] ((workspaceKey ⟨"../device"⟩).path "/data/keys".toList) =
        ["data".toList, "device.json".toList] := by
    decide +kernel
  have directory :
      resolve [] "/data/keys".toList = ["data".toList, "keys".toList] := by
    decide +kernel
  obtain ⟨names, -, place⟩ :=
    (always [] "/data/keys".toList _ _ accepted accepted).1
  rw [outside, directory] at place
  have second := (List.cons.inj (List.cons.inj place).2).1
  revert second
  decide

/-- The key of a channel can lie where another builder puts the state of a group. -/
example :
    resolve [] ((channelKey ⟨"w"⟩ ⟨"../mls-groups/workspace"⟩).path "/data/keys".toList) =
      resolve [] ((openmlsWorkspaceGroup ⟨"w"⟩).path "/data/keys".toList) := by
  decide +kernel

end SecretFile

end Chaft
