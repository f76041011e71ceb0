import Mathlib.Data.List.Basic
import Mathlib.Logic.Function.Basic
import StaticInjection.Files.Tree
import StaticInjection.Proofs.Naming.Path

/-! # Laws of file systems

Files are told by the places that paths lead to. An operation that succeeds changes
what is at the places that it is for, and nothing else. Trees of files keep these
laws as long as every entry lies in a directory. -/

namespace StaticInjection

/-- What the operations of a file system do with some paths where they succeed, and what
is there where they find nothing to remove. -/
structure FileAccess.Lawful {state location : Type} [DecidableEq location]
    (access : FileAccess (StateM state)) (valid : state → Prop) (paths : String → Prop)
    (place : String → location) (content : state → location → Option String) : Prop where
  created : ∀ {path before after}, valid before →
    (access.createDirectories path).run before = (.ok (), after) →
    valid after ∧ content after = content before
  written : ∀ {path text before after}, valid before → paths path →
    (access.write path text).run before = (.ok (), after) →
    valid after ∧ content after = Function.update (content before) (place path) (some text)
  renamed : ∀ {source target before after}, valid before → paths source → paths target →
    (access.rename source target).run before = (.ok (), after) →
    valid after ∧ content after =
      Function.update (Function.update (content before) (place source) none) (place target)
        (content before (place source))
  removed : ∀ {path before after}, valid before → paths path →
    (access.remove path).run before = (.ok (), after) →
    valid after ∧ content after = Function.update (content before) (place path) none
  missing : ∀ {path before after}, valid before → paths path →
    (access.remove path).run before = (.error .notFound, after) →
    valid after ∧ content after = content before ∧ content before (place path) = none

namespace FileTree

/-! ## Entries -/

@[simp] theorem get?_nil (tree : FileTree) : tree.get? [] = some .directory := rfl

theorem lookup_filter {entries : List (List String × FileEntry)} {path other : List String} :
    (entries.filter fun (key, _) => key != path).lookup other =
      if other = path then none else entries.lookup other := by
  induction entries with
  | nil => simp
  | cons entry rest induction =>
      obtain ⟨key, value⟩ := entry
      by_cases here : key = path
      · subst here
        rw [List.filter_cons_of_neg (by simp), induction, List.lookup_cons]
        by_cases same : other = key <;> simp [same, beq_eq_false_iff_ne.mpr]
      · rw [List.filter_cons_of_pos (by simpa using here), List.lookup_cons, List.lookup_cons,
          induction]
        by_cases same : other = key
        · simp [same, here]
        · rw [beq_eq_false_iff_ne.mpr same]

theorem get?_set {tree : FileTree} {path : List String} {entry : FileEntry}
    (proper : path ≠ []) (other : List String) :
    (tree.set path entry).get? other = if other = path then some entry else tree.get? other := by
  by_cases top : other = []
  · subst top
    simp [Ne.symm proper]
  · simp only [get?, set, List.isEmpty_iff, top, if_false, List.lookup_append, lookup_filter]
    by_cases same : other = path
    · simp [same]
    · simp [same, List.lookup_cons, beq_eq_false_iff_ne.mpr same]

theorem get?_erase {tree : FileTree} {path : List String} (proper : path ≠ [])
    (other : List String) :
    (tree.erase path).get? other = if other = path then none else tree.get? other := by
  by_cases top : other = []
  · subst top
    simp [Ne.symm proper]
  · simp only [get?, erase, List.isEmpty_iff, top, if_false, lookup_filter]

/-- Every entry lies in a directory. -/
def Rooted (tree : FileTree) : Prop :=
  ∀ place name, (tree.get? (place ++ [name])).isSome → tree.get? place = some .directory

theorem mem_of_get? {tree : FileTree} {place : List String} (proper : place ≠ [])
    {entry : FileEntry} (present : tree.get? place = some entry) : (place, entry) ∈ tree.entries := by
  rw [get?, if_neg (by simpa using proper), List.lookup_eq_some_iff] at present
  obtain ⟨before, after, split, _⟩ := present
  exact split ▸ List.mem_append_right _ List.mem_cons_self

theorem rooted_of_entries {tree : FileTree}
    (inside : ∀ entry ∈ tree.entries, tree.get? entry.1.dropLast = some .directory) :
    tree.Rooted := by
  intro place name present
  obtain ⟨entry, found⟩ := Option.isSome_iff_exists.mp present
  simpa using inside _ (mem_of_get? (by simp) found)

/-- A place that can hold an entry. -/
def InDirectory (tree : FileTree) (place : List String) : Prop :=
  place = [] ∨ tree.get? place.dropLast = some .directory

variable {tree : FileTree}

theorem Rooted.inDirectory (rooted : tree.Rooted) {place : List String}
    (present : (tree.get? place).isSome) : tree.InDirectory place := by
  rcases List.eq_nil_or_concat' place with empty | ⟨above, name, rfl⟩
  · exact .inl empty
  · exact .inr (by simpa using rooted above name present)

/-- Nothing lies below a place where nothing is. -/
theorem Rooted.get?_append (rooted : tree.Rooted) {place : List String}
    (missing : tree.get? place = none) (rest : List String) :
    tree.get? (place ++ rest) = none := by
  induction rest generalizing place with
  | nil => simpa using missing
  | cons name rest induction =>
      have next : tree.get? (place ++ [name]) = none := by
        cases found : tree.get? (place ++ [name]) with
        | none => rfl
        | some entry =>
            rw [rooted place name (by simp [found])] at missing
            cases missing
      simpa using induction next

theorem Rooted.set (rooted : tree.Rooted) {place : List String} {entry : FileEntry}
    (inside : tree.InDirectory place) (proper : place ≠ [])
    (childless : tree.get? place ≠ some .directory) : (tree.set place entry).Rooted := by
  intro above name present
  rw [get?_set proper] at present ⊢
  by_cases here : above ++ [name] = place
  · have above' : above ≠ place := by
      rintro rfl
      simp at here
    rw [if_neg above']
    simpa [InDirectory, ← here] using inside
  · rw [if_neg here] at present
    have isDirectory := rooted above name present
    have apart : above ≠ place := fun same => childless (same ▸ isDirectory)
    rwa [if_neg apart]

theorem Rooted.erase (rooted : tree.Rooted) {place : List String} (proper : place ≠ [])
    (childless : tree.get? place ≠ some .directory) : (tree.erase place).Rooted := by
  intro above name present
  rw [get?_erase proper] at present ⊢
  by_cases here : above ++ [name] = place
  · simp [here] at present
  · rw [if_neg here] at present
    have isDirectory := rooted above name present
    have apart : above ≠ place := fun same => childless (same ▸ isDirectory)
    rwa [if_neg apart]

/-! ## Places -/

/-- Where names lead to from a place. -/
def follow : List String → List String → List String
  | place, [] => place
  | place, name :: rest =>
    if name = ".." then follow place.dropLast rest else follow (place ++ [name]) rest

def placeOf (path : String) : List String :=
  follow [] (names path)

theorem follow_of_plain {rest : List String} (plain : ".." ∉ rest) (place : List String) :
    follow place rest = place ++ rest := by
  induction rest generalizing place with
  | nil => simp [follow]
  | cons name rest induction =>
      obtain ⟨first, others⟩ := not_or.mp (mt List.mem_cons.mpr plain)
      rw [follow, if_neg (Ne.symm first), induction others, List.append_assoc]
      rfl

theorem walk_ok (rooted : tree.Rooted) {place rest reached : List String}
    (inside : tree.InDirectory place) (walked : tree.walk place rest = .ok reached) :
    reached = follow place rest ∧ tree.InDirectory reached := by
  induction rest generalizing place with
  | nil =>
      injection walked with same
      exact same ▸ ⟨rfl, inside⟩
  | cons name rest induction =>
      rw [walk] at walked
      split at walked
      · cases walked
      · cases walked
      · rename_i isDirectory
        rw [follow]
        split at walked
        · rename_i up
          rw [if_pos up]
          refine induction ?_ walked
          rcases inside with rfl | above
          · exact .inl rfl
          · exact rooted.inDirectory (by simp [above])
        · rename_i down
          rw [if_neg down]
          split at walked
          · cases walked
          · exact induction (.inr (by simpa using isDirectory)) walked

theorem walk_notFound (rooted : tree.Rooted) {place rest : List String} (plain : ".." ∉ rest)
    (walked : tree.walk place rest = .error .notFound) : tree.get? (place ++ rest) = none := by
  induction rest generalizing place with
  | nil => cases walked
  | cons name rest induction =>
      obtain ⟨first, others⟩ := not_or.mp (mt List.mem_cons.mpr plain)
      rw [walk] at walked
      split at walked
      · rename_i missing
        exact rooted.get?_append missing _
      · cases walked
      · rw [if_neg (Ne.symm first)] at walked
        split at walked
        · cases walked
        · simpa using induction others walked

theorem resolve_ok (rooted : tree.Rooted) {path : String} {reached : List String}
    (resolved : tree.resolve path = .ok reached) :
    reached = placeOf path ∧ tree.InDirectory reached := by
  unfold resolve at resolved
  split at resolved
  · cases resolved
  split at resolved
  · cases resolved
  · exact walk_ok rooted (.inl rfl) resolved

/-! ## Contents -/

/-- The text of the file at a place. -/
def content (tree : FileTree) (place : List String) : Option String :=
  match tree.get? place with
  | some (.file text) => some text
  | _ => none

theorem content_set_file {place : List String} (proper : place ≠ []) (text : String) :
    (tree.set place (.file text)).content = Function.update tree.content place (some text) := by
  funext other
  by_cases same : other = place
  · simp [content, get?_set proper, same]
  · simp [content, get?_set proper, same]

theorem content_set_directory {place : List String} (missing : tree.get? place = none) :
    (tree.set place .directory).content = tree.content := by
  have proper : place ≠ [] := by
    rintro rfl
    cases missing
  funext other
  by_cases same : other = place
  · simp [content, get?_set proper, same, missing]
  · simp [content, get?_set proper, same]

theorem content_erase {place : List String} (proper : place ≠ []) :
    (tree.erase place).content = Function.update tree.content place none := by
  funext other
  by_cases same : other = place
  · simp [content, get?_erase proper, same]
  · simp [content, get?_erase proper, same]

/-! ## Operations -/

theorem proper_of_not_directory {place : List String}
    (other : tree.get? place ≠ some .directory) : place ≠ [] := by
  rintro rfl
  exact other rfl

theorem write_ok (rooted : tree.Rooted) {path text : String} {changed : FileTree}
    (written : tree.write path text = .ok changed) :
    changed.Rooted ∧
      changed.content = Function.update tree.content (placeOf path) (some text) := by
  simp only [write, bind, Except.bind] at written
  split at written
  · cases written
  rename_i place resolved
  obtain ⟨rfl, inside⟩ := resolve_ok rooted resolved
  split at written
  · cases written
  rename_i other
  injection written with same
  subst same
  have proper := proper_of_not_directory other
  exact ⟨rooted.set inside proper other, content_set_file proper text⟩

theorem remove_ok (rooted : tree.Rooted) {path : String} {changed : FileTree}
    (removed : tree.remove path = .ok changed) :
    changed.Rooted ∧ changed.content = Function.update tree.content (placeOf path) none := by
  simp only [remove, bind, Except.bind] at removed
  split at removed
  · cases removed
  rename_i place resolved
  obtain ⟨rfl, inside⟩ := resolve_ok rooted resolved
  split at removed
  · cases removed
  · cases removed
  rename_i text isFile
  injection removed with same
  subst same
  have other : tree.get? (placeOf path) ≠ some .directory := by simp [isFile]
  have proper := proper_of_not_directory other
  exact ⟨rooted.erase proper other, content_erase proper⟩

theorem remove_notFound (rooted : tree.Rooted) {path : String} (plain : ".." ∉ names path)
    (removed : tree.remove path = .error .notFound) : tree.content (placeOf path) = none := by
  simp only [remove, bind, Except.bind] at removed
  split at removed
  · rename_i fault refused
    injection removed with same
    subst same
    unfold resolve at refused
    split at refused
    · cases refused
    split at refused
    · rename_i empty
      subst empty
      rfl
    · have missing := walk_notFound rooted plain refused
      rw [← follow_of_plain plain] at missing
      simp [content, placeOf, missing]
  · rename_i place resolved
    obtain ⟨rfl, _⟩ := resolve_ok rooted resolved
    split at removed
    · rename_i missing
      simp [content, missing]
    · cases removed
    · cases removed

theorem read_ok {path text : String} (isRead : tree.read path = .ok text) :
    ∃ place, tree.resolve path = .ok place ∧ tree.get? place = some (.file text) := by
  simp only [read, bind, Except.bind] at isRead
  split at isRead
  · cases isRead
  rename_i place resolved
  split at isRead
  · cases isRead
  · cases isRead
  rename_i isFile
  injection isRead with same
  exact ⟨place, resolved, same ▸ isFile⟩

theorem rename_ok (rooted : tree.Rooted) {source target : String} {changed : FileTree}
    (renamed : tree.rename source target = .ok changed) :
    changed.Rooted ∧ changed.content =
      Function.update (Function.update tree.content (placeOf source) none) (placeOf target)
        (tree.content (placeOf source)) := by
  simp only [rename, bind, Except.bind] at renamed
  split at renamed
  · cases renamed
  rename_i text isRead
  obtain ⟨place, resolved, isFile⟩ := read_ok isRead
  obtain ⟨rfl, _⟩ := resolve_ok rooted resolved
  simp only [resolved] at renamed
  split at renamed
  · cases renamed
  rename_i goal goalResolved
  obtain ⟨rfl, inside⟩ := resolve_ok rooted goalResolved
  split at renamed
  · cases renamed
  rename_i other
  injection renamed with same
  subst same
  have sourceOther : tree.get? (placeOf source) ≠ some .directory := by simp [isFile]
  have sourceProper := proper_of_not_directory sourceOther
  have proper := proper_of_not_directory other
  have erased := rooted.erase sourceProper sourceOther
  constructor
  · refine erased.set ?_ proper ?_
    · refine inside.imp_right fun isDirectory => ?_
      have apart : (placeOf target).dropLast ≠ placeOf source :=
        fun same => sourceOther (same ▸ isDirectory)
      rwa [get?_erase sourceProper, if_neg apart]
    · rw [get?_erase sourceProper]
      split
      · simp
      · exact other
  · rw [content_set_file proper, content_erase sourceProper,
      show tree.content (placeOf source) = some text by simp [content, isFile]]

theorem createAlong_ok (rooted : tree.Rooted) {place rest : List String} {changed : FileTree}
    (inside : tree.InDirectory place) (created : tree.createAlong place rest = .ok changed) :
    changed.Rooted ∧ changed.content = tree.content := by
  induction rest generalizing tree place with
  | nil =>
      injection created with same
      exact same ▸ ⟨rooted, rfl⟩
  | cons name rest induction =>
      simp only [createAlong, bind, Except.bind] at created
      split at created
      · cases created
      rename_i next walked
      obtain ⟨_, nextInside⟩ := walk_ok rooted inside walked
      split at created
      · rename_i missing
        have other : tree.get? next ≠ some .directory := by simp [missing]
        have proper := proper_of_not_directory other
        have larger := induction (rooted.set nextInside proper other) ?_ created
        · rwa [content_set_directory missing] at larger
        · refine (rooted.set nextInside proper other).inDirectory ?_
          simp [get?_set proper]
      · exact induction rooted nextInside created
      · cases created

theorem createDirectories_ok (rooted : tree.Rooted) {path : String} {changed : FileTree}
    (created : tree.createDirectories path = .ok changed) :
    changed.Rooted ∧ changed.content = tree.content := by
  unfold createDirectories at created
  split at created
  · cases created
  · exact createAlong_ok rooted (.inl rfl) created

theorem change_ok {operation : FileTree → Except FileFault FileTree} {before after : FileTree}
    (changed : (change operation).run before = (.ok (), after)) :
    operation before = .ok after := by
  cases result : operation before with
  | ok other =>
      simp only [change, StateT.run, result] at changed
      injection changed with _ same
      rw [same]
  | error fault =>
      simp only [change, StateT.run, result] at changed
      injection changed with impossible
      cases impossible

theorem change_error {operation : FileTree → Except FileFault FileTree}
    {before after : FileTree} {fault : FileFault}
    (refused : (change operation).run before = (.error fault, after)) :
    operation before = .error fault ∧ after = before := by
  cases result : operation before with
  | ok other =>
      simp only [change, StateT.run, result] at refused
      injection refused with impossible
      cases impossible
  | error other =>
      simp only [change, StateT.run, result] at refused
      injection refused with reply same
      injection reply with fault
      exact ⟨congrArg _ fault, same.symm⟩

/-- Trees of files keep the laws on paths that do not lead back to the directory above. -/
theorem access_lawful :
    access.Lawful Rooted (fun path => ".." ∉ names path) placeOf content where
  created rooted done := createDirectories_ok rooted (change_ok done)
  written rooted _ done := write_ok rooted (change_ok done)
  renamed rooted _ _ done := rename_ok rooted (change_ok done)
  removed rooted _ done := remove_ok rooted (change_ok done)
  missing rooted plain refused := by
    obtain ⟨notFound, rfl⟩ := change_error refused
    exact ⟨rooted, rfl, remove_notFound rooted plain notFound⟩

/-! ## Names with an ending -/

/-- What a path ends with, the last name ends with. -/
theorem placeOf_ending (front ending : String) (noSlash : '/' ∉ ending.toList)
    (long : 2 < ending.length) :
    ∃ above stem, placeOf (front ++ ending) = above ++ [stem ++ ending] := by
  have pieces (front : List Char) : ∃ first last,
      Text.pieces '/' (front ++ ending.toList) = first ++ [last ++ ending.toList] := by
    induction front with
    | nil =>
        have whole := (Text.pieces_intercalate_iff '/' (List.cons_ne_nil ending.toList [])).mpr
          (by simpa using noSlash)
        exact ⟨[], [], by simpa using whole⟩
    | cons head tail induction =>
        obtain ⟨first, last, split⟩ := induction
        rw [List.cons_append, Text.pieces, split]
        by_cases separator : head = '/'
        · exact ⟨[] :: first, last, by simp [separator]⟩
        · rw [if_neg separator]
          cases first with
          | nil => exact ⟨[], head :: last, rfl⟩
          | cons piece rest => exact ⟨(head :: piece) :: rest, last, rfl⟩
  have follow_last (place rest : List String) {name : String} (down : name ≠ "..") :
      ∃ above, follow place (rest ++ [name]) = above ++ [name] := by
    induction rest generalizing place with
    | nil => exact ⟨place, by simp [follow, down]⟩
    | cons head tail induction =>
        rw [List.cons_append, follow]
        split
        · exact induction _
        · exact induction _
  obtain ⟨first, last, split⟩ := pieces front.toList
  have longName : 2 < (String.ofList last ++ ending).length := by
    rw [String.length_append]
    omega
  have other (short : String) (length : short.length ≤ 2) :
      String.ofList last ++ ending ≠ short := by
    rintro rfl
    omega
  obtain ⟨above, followed⟩ := follow_last []
    ((first.map String.ofList).filter fun name => name != "" && name != ".")
    (other ".." (by decide))
  refine ⟨above, String.ofList last, ?_⟩
  rw [← followed, placeOf, names, String.toList_append, split, List.map_append, List.filter_append]
  simp [String.ofList_append, other "" (by decide), other "." (by decide)]

end FileTree

end StaticInjection
