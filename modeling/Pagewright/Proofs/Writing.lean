import Pagewright.Command.Outcome
import Pagewright.Proofs.Layouts
import Pagewright.Proofs.Words

/-!
# Writing is all or nothing

A write makes folders, begins an unfinished file, puts the content into it and moves it to its
place, and each of these steps can fail, because of what stands in the tree or because the system
refuses it. Two facts decide what a failure leaves behind. Making folders only adds folders, and
only such as lead to the file (`Furnished`); and since the place of the unfinished file was free,
the whole rest of a write either puts the content at the place of the file or is nothing at all
(`writeInto_eq`), with no trace of the unfinished file in either case.

A path names the same place in every tree (`Path.place`); the tree only decides whether the way to
it is open. So the folders that a write makes, and the one file that it changes, can be named before
the write begins, and a command that writes an archive changes no other file.
-/

namespace Pagewright

/-! ## The place of a path -/

/-- The place that a path names, whatever stands on the way. -/
def Path.place (path : Path) (folder : Place) : Place :=
  path.names.foldl Place.step (FileTree.start folder path)

/-- Does the place belong to a folder that leads to the last name of a path? -/
def Path.LeadsThrough (path : Path) (folder place : Place) : Prop :=
  ∃ front, front <+: path.names.dropLast ∧ place = Path.place ⟨path.root, front⟩ folder

namespace FileTree

variable {κ : Type} {tree before after : FileTree κ} {folder : Place} {path : Path}

theorem follow_eq_foldl {place found : Place} {names : List String}
    (h : tree.follow place names = .ok found) : found = names.foldl Place.step place := by
  induction names generalizing place with
  | nil => exact (Except.ok.inj h).symm
  | cons name rest ih =>
    rw [follow] at h
    split at h
    · cases h
    · split at h
      · cases h
      · cases h
      · exact ih h

theorem locate_eq_ok {place : Place} : tree.locate folder path = .ok place ↔
    path.text.utf8ByteSize ≤ longestPath ∧
      ∃ above, tree.follow (start folder path) path.names.dropLast = .ok above ∧
        match path.names.getLast? with
        | none => place = above
        | some name => name.utf8ByteSize ≤ longestName ∧ place = above.step name := by
  unfold locate
  by_cases hlong : longestPath < path.text.utf8ByteSize
  · rw [if_pos hlong]
    exact iff_of_false nofun fun h => absurd h.1 (Nat.not_le.2 hlong)
  · rw [if_neg hlong]
    cases path.names.getLast? with
    | none =>
      refine bind_eq_ok.trans ⟨fun ⟨above, habove, h⟩ => ?_, fun ⟨_, above, habove, h⟩ => ?_⟩
      · exact ⟨Nat.not_lt.1 hlong, above, habove, (Except.ok.inj h).symm⟩
      · exact ⟨above, habove, congrArg Except.ok h.symm⟩
    | some name =>
      refine bind_eq_ok.trans
        ⟨fun ⟨above, habove, h⟩ => ?_, fun ⟨_, above, habove, hshort, h⟩ => ?_⟩
      · dsimp only at h
        split at h
        · cases h
        · next hname =>
          exact ⟨Nat.not_lt.1 hlong, above, habove, Nat.not_lt.1 hname, (Except.ok.inj h).symm⟩
      · refine ⟨above, habove, ?_⟩
        dsimp only
        rw [if_neg (Nat.not_lt.2 hshort), h]
        rfl

theorem locate_eq_place {place : Place} (h : tree.locate folder path = .ok place) :
    place = path.place folder := by
  obtain ⟨_, above, habove, hlast⟩ := locate_eq_ok.1 h
  have hfold := follow_eq_foldl habove
  rw [Path.place]
  rcases List.eq_nil_or_concat' path.names with hnames | ⟨front, name, hnames⟩
  · rw [hnames] at hlast hfold
    rw [hnames, hlast, hfold]
    rfl
  · rw [hnames, List.dropLast_concat] at hfold
    rw [hnames, List.getLast?_concat] at hlast
    rw [hnames, hlast.2, hfold, List.foldl_concat]

/-- A way stays open when its folders stay. -/
theorem follow_mono (hkept : ∀ place, before.look? place = some .folder →
    after.look? place = some .folder) {place found : Place} {names : List String}
    (h : before.follow place names = .ok found) : after.follow place names = .ok found := by
  induction names generalizing place with
  | nil => exact h
  | cons name rest ih =>
    rw [follow] at h ⊢
    split at h
    · cases h
    · next hshort =>
      rw [if_neg hshort]
      split at h
      · cases h
      · cases h
      · next hfolder =>
        rw [hkept _ hfolder]
        exact ih h

theorem locate_mono (hkept : ∀ place, before.look? place = some .folder →
    after.look? place = some .folder) {place : Place}
    (h : before.locate folder path = .ok place) : after.locate folder path = .ok place := by
  obtain ⟨hlong, above, habove, hlast⟩ := locate_eq_ok.1 h
  exact locate_eq_ok.2 ⟨hlong, above, follow_mono hkept habove, hlast⟩

/-! ## Making folders -/

/-- One tree is another with further folders, at places of the given kind. -/
structure Furnished (before after : FileTree κ) (places : Place → Prop) : Prop where
  /-- Everything that was there is there. -/
  kept : ∀ place entry, before.look? place = some entry → after.look? place = some entry
  /-- What is new is a folder. -/
  added : ∀ place, before.look? place = none →
    after.look? place = none ∨ (after.look? place = some .folder ∧ places place)

namespace Furnished

variable {places others : Place → Prop}

theorem refl (tree : FileTree κ) (places : Place → Prop) : Furnished tree tree places where
  kept := fun _ _ h => h
  added := fun _ h => Or.inl h

theorem trans {between : FileTree κ} (h : Furnished before between places)
    (h' : Furnished between after places) : Furnished before after places where
  kept := fun place entry hentry => h'.kept place entry (h.kept place entry hentry)
  added := by
    intro place hnone
    rcases h.added place hnone with hfree | ⟨hfolder, hplace⟩
    · exact h'.added place hfree
    · exact Or.inr ⟨h'.kept place _ hfolder, hplace⟩

theorem imp (h : Furnished before after places) (himp : ∀ place, places place → others place) :
    Furnished before after others where
  kept := h.kept
  added := fun place hnone => (h.added place hnone).imp_right fun ⟨hfolder, hplace⟩ =>
    ⟨hfolder, himp place hplace⟩

end Furnished

theorem makeFolder_furnished {refusals : Refusals}
    (h : before.makeFolder folder path refusals = .ok after) :
    Furnished before after (· = path.place folder) := by
  unfold makeFolder at h
  obtain ⟨made, hmade, h⟩ := bind_eq_ok.1 h
  have hplace : made = path.place folder := locate_eq_place hmade
  split at h
  · cases h
  · cases h
  · next hfree _ =>
    have hafter : after = before.put made .folder := (Except.ok.inj h).symm
    have hne : made ≠ [] := by
      intro hnil
      rw [hnil, look?_nil] at hfree
      cases hfree
    rw [hafter]
    constructor
    · intro place entry hentry
      have hother : place ≠ made := by
        intro heq
        rw [heq, hfree] at hentry
        cases hentry
      rw [look?_put_of_ne _ hother]
      exact hentry
    · intro place hnone
      by_cases heq : place = made
      · exact Or.inr ⟨by rw [heq, look?_put_self _ hne], by rw [heq, hplace]⟩
      · exact Or.inl (by rw [look?_put_of_ne _ heq, hnone])

theorem settleFolder_furnished (tree : FileTree κ) (folder : Place) (path : Path)
    (refusals : Refusals) :
    Furnished tree (tree.settleFolder folder path refusals).tree (· = path.place folder) := by
  unfold settleFolder
  split
  · next hmade => exact makeFolder_furnished hmade
  · split
    · exact .refl tree _
    · exact .refl tree _

/-- **Making the folders of a path adds folders on the way and nothing else**, also when it stops
half way. -/
theorem makeFolders_furnished (tree : FileTree κ) (folder : Place) (root : PathRoot)
    (names : List String) (refusals : Refusals) :
    Furnished tree (tree.makeFolders folder root names refusals).tree fun place =>
      ∃ front, front <+: names.reverse ∧ place = Path.place ⟨root, front⟩ folder := by
  induction names generalizing tree with
  | nil =>
    rw [makeFolders]
    exact (settleFolder_furnished tree folder _ refusals).imp fun place hplace =>
      ⟨[], List.nil_prefix, hplace⟩
  | cons name above ih =>
    have hlast : ∀ between : FileTree κ, Furnished between
        (between.settleFolder folder ⟨root, (name :: above).reverse⟩ refusals).tree fun place =>
          ∃ front, front <+: (name :: above).reverse ∧ place = Path.place ⟨root, front⟩ folder :=
      fun between => (settleFolder_furnished between folder _ refusals).imp fun place hplace =>
        ⟨_, List.prefix_rfl, hplace⟩
    have hfront : Furnished tree (tree.makeFolders folder root above refusals).tree fun place =>
        ∃ front, front <+: (name :: above).reverse ∧ place = Path.place ⟨root, front⟩ folder := by
      refine (ih tree).imp fun place ⟨front, hprefix, hplace⟩ => ⟨front, ?_, hplace⟩
      rw [List.reverse_cons]
      exact hprefix.trans (List.prefix_append _ _)
    rw [makeFolders]
    split
    · -- the folders in front are made first, and the last one only if that went well
      dsimp only
      split
      · exact hfront.trans (hlast _)
      · exact hfront
    · exact hlast tree

/-! ## The unfinished file -/

theorem unfinishedPlace_ne_nil (tree : FileTree κ) (above : Place) (name : String) :
    tree.unfinishedPlace above name ≠ [] := by
  have hlonger : ∀ place : Place, place ≠ [] → ∀ taken, freePlace place taken ≠ [] := by
    intro place hne taken
    induction taken using strike_induction generalizing place with
    | step taken ih =>
      rw [freePlace]
      split
      · next hmem =>
        refine ih _ hmem place.longer fun hnil => ?_
        have hlength := place.length_longer
        rw [hnil, List.length_nil] at hlength
        omega
      · exact hne
  exact hlonger _ (by simp) _

theorem look?_unfinishedPlace (tree : FileTree κ) (above : Place) (name : String) :
    tree.look? (tree.unfinishedPlace above name) = none := by
  have hfree := freePlace_not_mem (above ++ ["." ++ name ++ "."]) (tree.entries.map Prod.fst)
  rw [look?, if_neg (by simpa using unfinishedPlace_ne_nil tree above name),
    List.lookup_eq_none_iff]
  intro entry hentry
  have hne : tree.unfinishedPlace above name ≠ entry.1 := by
    intro heq
    exact hfree (List.mem_map.2 ⟨entry, hentry, heq.symm⟩)
  simpa using hne

/-- What was put at a free place and removed again leaves the tree as it was. -/
theorem remove_put_unfinishedPlace (tree : FileTree κ) (above : Place) (name : String)
    (entry : FileEntry κ) :
    (tree.put (tree.unfinishedPlace above name) entry).remove (tree.unfinishedPlace above name) =
      tree := by
  have hfree := freePlace_not_mem (above ++ ["." ++ name ++ "."]) (tree.entries.map Prod.fst)
  have hothers : ∀ e ∈ tree.entries, (e.1 != tree.unfinishedPlace above name) = true := by
    intro e he
    have hne : e.1 ≠ tree.unfinishedPlace above name := by
      intro heq
      exact hfree (List.mem_map.2 ⟨e, he, heq⟩)
    simpa using hne
  have hkept : tree.entries.filter (fun e => e.1 != tree.unfinishedPlace above name) =
      tree.entries := List.filter_eq_self.2 hothers
  simp only [put, remove, List.filter_append, hkept]
  simp

/-- A file is moved to any place where no folder stands. -/
theorem moveFile_eq {source : Place} (target : Place) {content : κ}
    (hsource : tree.look? source = some (.file content)) :
    tree.look? target = some .folder ∧ tree.moveFile source target = none ∨
      tree.look? target ≠ some .folder ∧
        tree.moveFile source target = some ((tree.remove source).put target (.file content)) := by
  unfold moveFile
  rw [hsource]
  cases htarget : tree.look? target with
  | none => exact Or.inr ⟨nofun, rfl⟩
  | some entry =>
    cases entry with
    | folder => exact Or.inl ⟨rfl, rfl⟩
    | file old => exact Or.inr ⟨nofun, rfl⟩

/-- **The rest of a write is one change or none**: the content is put at its place, or a fault is
reported and the tree is as it was. It fails only at a folder or at a refusal. -/
theorem writeInto_eq (tree : FileTree κ) (above target : Place) (name : String) (content : κ)
    (refusals : Refusals) :
    (∃ fault, tree.writeInto above target name content refusals = ⟨tree, some fault⟩ ∧
        fault ≠ .zeroCharacter ∧
          (tree.look? target = some .folder ∨ ∃ step, refusals step ≠ none)) ∨
      tree.look? target ≠ some .folder ∧
        tree.writeInto above target name content refusals =
          ⟨tree.put target (.file content), none⟩ := by
  have hrestored := remove_put_unfinishedPlace tree above name (.file content)
  have hsource := look?_put_self tree (unfinishedPlace_ne_nil tree above name) (.file content)
  -- no folder stands at the free place of the unfinished file
  have htarget : (tree.put (tree.unfinishedPlace above name) (.file content)).look? target =
      some .folder ↔ tree.look? target = some .folder := by
    by_cases heq : target = tree.unfinishedPlace above name
    · rw [heq, hsource, look?_unfinishedPlace]
      exact iff_of_false nofun nofun
    · rw [look?_put_of_ne tree heq]
  unfold writeInto
  split
  · next report hrefused =>
    exact Or.inl ⟨.refused report, rfl, nofun, Or.inr ⟨.begin, by rw [hrefused]; nofun⟩⟩
  · dsimp only
    split
    · next report hrefused =>
      have hstep : ∃ step, refusals step ≠ none := by
        rcases Option.or_eq_some_iff.1 hrefused with hfill | ⟨_, hmove⟩
        · exact ⟨.fill, by rw [hfill]; nofun⟩
        · exact ⟨.move, by rw [hmove]; nofun⟩
      exact Or.inl ⟨.refused report, by rw [hrestored], nofun, Or.inr hstep⟩
    · rcases moveFile_eq target hsource with ⟨hfolder, hmoved⟩ | ⟨hfree, hmoved⟩
      · rw [hmoved]
        exact Or.inl ⟨.unwritable, by rw [hrestored], nofun, Or.inl (htarget.1 hfolder)⟩
      · rw [hmoved, hrestored]
        exact Or.inr ⟨fun hfolder => hfree (htarget.2 hfolder), rfl⟩

/-! ## Texts of paths -/

theorem holdsZero_iff {text : String} : holdsZero text = true ↔ '\x00' ∈ text.toList := by
  rw [holdsZero, List.contains_iff_mem]

end FileTree

namespace Path

open FileTree

theorem text_of_names {path : Path} (h : path.names ≠ []) :
    path.text = path.root.text ++ "/".intercalate path.names := by
  unfold text
  split
  · next hnames => exact absurd hnames h
  · rfl

/-- A zero character in a name shows in the text of the path. -/
theorem holdsZero_text {path : Path} {name : String} (hname : name ∈ path.names)
    (h : holdsZero name = true) : holdsZero path.text = true := by
  have hnames : name.toList ∈ path.names.map String.toList := List.mem_map_of_mem hname
  rw [holdsZero_iff] at h ⊢
  rw [text_of_names (List.ne_nil_of_mem hname), String.toList_append, String.toList_intercalate,
    ← Text.joinWith_eq_intercalate]
  exact List.mem_append_right _ (Text.mem_joinWith_of_mem _ hnames h)

/-- The text of a path has a zero character from one of its names. -/
theorem exists_of_holdsZero {path : Path} (h : holdsZero path.text = true) :
    ∃ name ∈ path.names, holdsZero name = true := by
  have hroot : '\x00' ∉ path.root.text.toList := by
    cases path.root <;> decide
  rw [holdsZero_iff] at h
  by_cases hnames : path.names = []
  · -- the text of a path without names is a dot, or that of the root
    exfalso
    unfold text at h
    rw [hnames] at h
    split at h
    · exact absurd h (by decide)
    · exact hroot (by simpa using h)
  · rw [text_of_names hnames, String.toList_append, String.toList_intercalate] at h
    rcases List.mem_append.1 h with h | h
    · exact absurd h hroot
    · rw [← Text.joinWith_eq_intercalate] at h
      rcases Text.mem_joinWith h with h | ⟨part, hpart, h⟩
      · exact absurd h (by decide)
      · obtain ⟨name, hname, rfl⟩ := List.mem_map.1 hpart
        exact ⟨name, hname, holdsZero_iff.2 h⟩

/-- The text of a path has the zero characters of the folder in front of it. -/
theorem holdsZero_of_parent {path : Path} (h : holdsZero path.parent.text = true) :
    holdsZero path.text = true := by
  obtain ⟨name, hname, hzero⟩ := exists_of_holdsZero h
  exact holdsZero_text ((List.dropLast_sublist _).subset hname) hzero

theorem holdsZero_of_name {path : Path} (h : holdsZero path.name = true) :
    holdsZero path.text = true := by
  unfold name at h
  cases hlast : path.names.getLast? with
  | none =>
    rw [hlast] at h
    exact absurd h (by decide)
  | some last =>
    rw [hlast] at h
    exact holdsZero_text (List.mem_of_getLast? hlast) h

end Path

/-! ## A write -/

namespace FileTree

variable {κ : Type} {tree before after : FileTree κ} {folder : Place} {path : Path}

/-- The content of the file at a place. -/
def fileAt? (tree : FileTree κ) (place : Place) : Option κ :=
  match tree.look? place with
  | some (.file content) => some content
  | _ => none

/-- Further folders change no file. -/
theorem Furnished.fileAt?_eq {places : Place → Prop} (h : Furnished before after places)
    (place : Place) : after.fileAt? place = before.fileAt? place := by
  unfold fileAt?
  cases hbefore : before.look? place with
  | some entry => rw [h.kept place entry hbefore]
  | none =>
    rcases h.added place hbefore with hafter | ⟨hafter, _⟩
    · rw [hafter]
    · rw [hafter]

/-- What an attempt to write a file leaves behind, as compared with the tree before it. -/
structure AllOrNothing (before : FileTree κ) (folder : Place) (path : Path) (content : κ)
    (done : Attempt κ WriteFault) : Prop where
  /-- After a success the path leads to a file with exactly the content. -/
  written : done.fault = none → done.tree.find? folder path = some (.file content)
  /-- Every other place has the file that it had, or still none. -/
  others : ∀ place, place ≠ path.place folder → done.tree.fileAt? place = before.fileAt? place
  /-- After a failure so has the place itself. -/
  unchanged : ∀ fault, done.fault = some fault →
    ∀ place, done.tree.fileAt? place = before.fileAt? place
  /-- No folder is lost. -/
  kept : ∀ place, before.look? place = some .folder → done.tree.look? place = some .folder
  /-- Folders are made only where nothing stood, and only such as lead to the file. -/
  made : ∀ place, done.tree.look? place = some .folder →
    before.look? place = some .folder ∨
      before.look? place = none ∧ path.LeadsThrough folder place
  /-- The fault is a failed write, unless the path cannot be given to the system at all. -/
  reported : done.fault = some .zeroCharacter → holdsZero path.text = true

/-- A failure that comes after nothing but the making of folders is all or nothing. -/
theorem Furnished.allOrNothing_of_fault (h : Furnished before after (path.LeadsThrough folder))
    {content : κ} {fault : WriteFault}
    (hzero : fault = .zeroCharacter → holdsZero path.text = true) :
    before.AllOrNothing folder path content ⟨after, some fault⟩ where
  written := nofun
  others := fun place _ => h.fileAt?_eq place
  unchanged := fun _ _ place => h.fileAt?_eq place
  kept := fun place hfolder => h.kept place _ hfolder
  made := by
    intro place hfolder
    cases hbefore : before.look? place with
    | none =>
      rcases h.added place hbefore with hafter | ⟨_, hplace⟩
      · rw [hafter] at hfolder
        cases hfolder
      · exact Or.inr ⟨rfl, hplace⟩
    | some entry =>
      rw [h.kept place entry hbefore] at hfolder
      exact Or.inl hfolder
  reported := fun heq => hzero (Option.some.inj heq)

/-- A success that comes after nothing but the making of folders is all or nothing. -/
theorem Furnished.allOrNothing_of_put (h : Furnished before after (path.LeadsThrough folder))
    {content : κ} {target : Place} (htarget : after.locate folder path = .ok target)
    (hfree : after.look? target ≠ some .folder) :
    before.AllOrNothing folder path content ⟨after.put target (.file content), none⟩ := by
  have hplace : target = path.place folder := locate_eq_place htarget
  have hne : target ≠ [] := by
    intro hnil
    rw [hnil, look?_nil] at hfree
    exact hfree rfl
  have hself : (after.put target (.file content)).look? target = some (.file content) :=
    look?_put_self after hne _
  have hother : ∀ place, place ≠ target →
      (after.put target (.file content)).look? place = after.look? place :=
    fun place hplace => look?_put_of_ne after hplace _
  -- the folders of the way are not at the place, so the way is open as before
  have hopen : ∀ place, after.look? place = some .folder →
      (after.put target (.file content)).look? place = some .folder := by
    intro place hfolder
    rw [hother place fun heq => hfree (heq ▸ hfolder), hfolder]
  have hfailed : before.AllOrNothing folder path content ⟨after, some .unwritable⟩ :=
    h.allOrNothing_of_fault nofun
  constructor
  · intro _
    unfold find?
    rw [locate_mono hopen htarget]
    exact hself
  · intro place hne
    unfold fileAt?
    rw [hother place (hplace ▸ hne)]
    exact hfailed.others place hne
  · exact nofun
  · exact fun place hfolder => hopen place (h.kept place _ hfolder)
  · intro place hfolder
    by_cases heq : place = target
    · rw [heq, hself] at hfolder
      cases hfolder
    · rw [hother place heq] at hfolder
      exact hfailed.made place hfolder
  · exact nofun

/-- **A write is all or nothing**, whatever stands in the tree and whatever the system refuses. -/
theorem write_allOrNothing (tree : FileTree κ) (folder : Place) (path : Path) (content : κ)
    (refusals : Refusals) :
    tree.AllOrNothing folder path content (tree.write folder path content refusals) := by
  have hmade : Furnished tree
      (tree.makeFolders folder path.root path.names.dropLast.reverse refusals).tree
      (path.LeadsThrough folder) := by
    refine (makeFolders_furnished tree folder path.root _ refusals).imp ?_
    intro place ⟨front, hprefix, hplace⟩
    rw [List.reverse_reverse] at hprefix
    exact ⟨front, hprefix, hplace⟩
  have hsame := Furnished.refl tree (path.LeadsThrough folder)
  unfold write
  split
  · next hzero => exact hsame.allOrNothing_of_fault fun _ => Path.holdsZero_of_parent hzero
  · dsimp only
    split
    · exact hmade.allOrNothing_of_fault nofun
    · unfold finish
      split
      · next hzero => exact hmade.allOrNothing_of_fault fun _ => Path.holdsZero_of_name hzero
      · split
        · exact hmade.allOrNothing_of_fault nofun
        · split
          · next above target _ htarget =>
            rcases writeInto_eq _ above target path.name content refusals with
              ⟨fault, hdone, hfault, _⟩ | ⟨hfree, hdone⟩
            · rw [hdone]
              exact hmade.allOrNothing_of_fault fun heq => absurd heq hfault
            · rw [hdone]
              exact hmade.allOrNothing_of_put htarget hfree
          · exact hmade.allOrNothing_of_fault nofun

/-! ## When a write succeeds -/

/-- Nothing stands against a write: its folder is there, its place is not taken by a folder, its
path can be given to the system, and the system refuses no step. -/
structure Ready (tree : FileTree κ) (folder : Place) (path : Path) (refusals : Refusals) :
    Prop where
  above : tree.find? folder path.parent = some .folder
  target : tree.find? folder path ≠ some .folder
  noZero : holdsZero path.text = false
  shortText : path.text.utf8ByteSize ≤ longestPath
  /-- There is room for the name of the unfinished file. -/
  shortName : path.name.utf8ByteSize + unfinishedExcess ≤ longestName
  allowed : ∀ step, refusals step = none

theorem find?_eq_some {entry : FileEntry κ} : tree.find? folder path = some entry ↔
    ∃ place, tree.locate folder path = .ok place ∧ tree.look? place = some entry := by
  unfold find?
  cases tree.locate folder path with
  | error fault => exact iff_of_false nofun fun ⟨_, h, _⟩ => nomatch h
  | ok place => exact ⟨fun h => ⟨place, rfl, h⟩, fun ⟨_, hplace, h⟩ => Except.ok.inj hplace ▸ h⟩

/-- A way into a folder goes on to a folder in it. -/
theorem follow_concat {place found : Place} {front : List String} {name : String}
    (h : tree.follow place front = .ok found) (hname : name.utf8ByteSize ≤ longestName)
    (hfolder : tree.look? (found.step name) = some .folder) :
    tree.follow place (front ++ [name]) = .ok (found.step name) := by
  induction front generalizing place with
  | nil =>
    rw [← Except.ok.inj h] at hfolder ⊢
    rw [List.nil_append, follow, if_neg (Nat.not_lt.2 hname), hfolder]
    rfl
  | cons first rest ih =>
    rw [follow] at h
    rw [List.cons_append, follow]
    split at h
    · cases h
    · next hshort =>
      rw [if_neg hshort]
      split at h
      · cases h
      · cases h
      · exact ih h

/-- All names of a path can be followed when it leads to a folder. -/
theorem follow_of_folder (h : tree.find? folder path = some .folder) :
    tree.follow (start folder path) path.names = .ok (path.place folder) := by
  obtain ⟨place, hplace, hfolder⟩ := find?_eq_some.1 h
  obtain ⟨_, above, habove, hlast⟩ := locate_eq_ok.1 hplace
  rw [← locate_eq_place hplace]
  rcases List.eq_nil_or_concat' path.names with hnames | ⟨front, name, hnames⟩
  · rw [hnames] at habove hlast
    rw [hnames, hlast]
    exact habove
  · rw [hnames, List.dropLast_concat] at habove
    rw [hnames, List.getLast?_concat] at hlast
    obtain ⟨hname, rfl⟩ := hlast
    rw [hnames]
    exact follow_concat habove hname hfolder

/-- The folders of a path that leads to a folder are there already. -/
theorem makeFolders_of_folder {root : PathRoot} {names : List String} (refusals : Refusals)
    (h : tree.find? folder ⟨root, names.reverse⟩ = some .folder) :
    tree.makeFolders folder root names refusals = ⟨tree, none⟩ := by
  obtain ⟨place, hplace, hfolder⟩ := find?_eq_some.1 h
  have hpresent : tree.makeFolder folder ⟨root, names.reverse⟩ refusals = .error .present := by
    unfold makeFolder
    simp only [hplace, bind, Except.bind, hfolder]
    rfl
  have hsettled : tree.settleFolder folder ⟨root, names.reverse⟩ refusals = ⟨tree, none⟩ := by
    unfold settleFolder isFolder
    rw [hpresent, h]
    rfl
  cases names with
  | nil => exact hsettled
  | cons name rest =>
    rw [makeFolders]
    dsimp only
    rw [hpresent]
    exact hsettled

/-- The place of a path can be found when its folder is there. -/
theorem Ready.locate_ok {refusals : Refusals} (h : tree.Ready folder path refusals) :
    tree.locate folder path = .ok (path.place folder) := by
  have habove := follow_of_folder h.above
  have hlast : ∃ place, tree.locate folder path = .ok place := by
    cases hname : path.names.getLast? with
    | none => exact ⟨_, locate_eq_ok.2 ⟨h.shortText, _, habove, by rw [hname]⟩⟩
    | some last =>
      have hshort : last.utf8ByteSize ≤ longestName := by
        have hroom := h.shortName
        rw [Path.name, hname] at hroom
        exact Nat.le_of_add_right_le hroom
      exact ⟨_, locate_eq_ok.2 ⟨h.shortText, _, habove, by rw [hname]; exact ⟨hshort, rfl⟩⟩⟩
  obtain ⟨place, hplace⟩ := hlast
  rw [hplace, locate_eq_place hplace]

/-- **A write succeeds when nothing stands against it.** -/
theorem Ready.write_succeeds {refusals : Refusals} (h : tree.Ready folder path refusals)
    (content : κ) : (tree.write folder path content refusals).fault = none := by
  have hmade : tree.makeFolders folder path.root path.names.dropLast.reverse refusals =
      ⟨tree, none⟩ :=
    makeFolders_of_folder refusals (by rw [List.reverse_reverse]; exact h.above)
  have hzero : ¬holdsZero path.text = true := by simp [h.noZero]
  have hfree : tree.look? (path.place folder) ≠ some .folder :=
    fun hfolder => h.target (find?_eq_some.2 ⟨_, h.locate_ok, hfolder⟩)
  obtain ⟨above, hparent, _⟩ := find?_eq_some.1 h.above
  unfold write finish
  rw [if_neg fun hparentZero => hzero (Path.holdsZero_of_parent hparentZero), hmade]
  dsimp only
  rw [if_neg fun hnameZero => hzero (Path.holdsZero_of_name hnameZero),
    if_neg (Nat.not_lt.2 h.shortName), hparent, h.locate_ok]
  dsimp only
  rcases writeInto_eq tree above (path.place folder) path.name content refusals with
    ⟨_, _, _, hfolder | ⟨step, hstep⟩⟩ | ⟨_, hdone⟩
  · exact absurd hfolder hfree
  · exact absurd (h.allowed step) hstep
  · rw [hdone]

end FileTree

/-! ## Commands -/

/-- What a run of a command leaves of the files that were there. -/
structure Command.KeepsFiles (command : Command) (objects : Text.Objects)
    (files : FileTree FileContent) (folder : Place) (ran : Run × FileTree FileContent) : Prop where
  /-- A command that fails changes no file and leaves no further one. -/
  failed : ∀ fault, ran.1.result = .error fault →
    ∀ place, ran.2.fileAt? place = files.fileAt? place
  /-- An export that ends well leaves its archive at the place that the settings and the document
  say, and changes nothing else. -/
  exported : ∀ document target given settings status,
    command = .exportSite document target given settings → ran.1.result = .ok status →
    ∃ own loaded result,
      ExportSettings.load objects settings (readState files folder settings) = .ok own ∧
      loadDocument (readState files folder) document = .ok loaded ∧
      loaded.exportFor objects Bundled.catalogue bundledProfiles
        ((target.filter fun name => !name.isEmpty).getD own.target)
        (own.timeout.elim .null Value.float) own.archivePattern = .ok result ∧
      let destination := (given.getD own.outputFolder).within (.ofText result.archiveName)
      ran.2.find? folder destination = some (.file (.archive result.archive)) ∧
        ∀ place, place ≠ destination.place folder →
          ran.2.fileAt? place = files.fileAt? place
  /-- Any other command leaves the whole tree as it is. -/
  others :
    (∀ document target given settings, command ≠ .exportSite document target given settings) →
      ran.2 = files

namespace Command

variable {objects : Text.Objects} {read : Path → FileState} {command : Command}

/-- **An export fails, or asks for its archive to be written**, where the settings and the document
say. -/
theorem exportSite_cases (objects : Text.Objects) (read : Path → FileState)
    (document settings : Path) (target : Option String) (given : Option Path) :
    (∃ fault, ((exportSite document target given settings).outcome objects read).ending =
        .failed fault) ∨
      ∃ own loaded result, ExportSettings.load objects settings (read settings) = .ok own ∧
        loadDocument read document = .ok loaded ∧
        loaded.exportFor objects Bundled.catalogue bundledProfiles
          ((target.filter fun name => !name.isEmpty).getD own.target)
          (own.timeout.elim .null Value.float) own.archivePattern = .ok result ∧
        ((exportSite document target given settings).outcome objects read).ending =
          .write ((given.getD own.outputFolder).within (.ofText result.archiveName))
            result.archive := by
  rw [outcome]
  unfold Outcome.ofExcept
  split
  · next more ending hdone =>
    obtain ⟨own, hown, hdone⟩ := bind_eq_ok.1 hdone
    obtain ⟨loaded, hloaded, hdone⟩ := bind_eq_ok.1 hdone
    obtain ⟨asked, hasked, hdone⟩ := bind_eq_ok.1 hdone
    obtain ⟨result, hresult, hasked⟩ := bind_eq_ok.1 hasked
    have hending : asked = ending := congrArg Prod.snd (Except.ok.inj hdone)
    rw [mapError_eq_ok] at hown hresult
    refine Or.inr ⟨own, loaded, result, hown, hloaded, hresult, ?_⟩
    rw [← hending]
    exact (Except.ok.inj hasked).symm
  · next fault _ => exact Or.inl ⟨fault, rfl⟩

/-- Only an export asks for a file to be written. -/
theorem ending_ne_write
    (h : ∀ document target given settings, command ≠ .exportSite document target given settings)
    (destination : Path) (archive : List ArchiveEntry) :
    (command.outcome objects read).ending ≠ .write destination archive := by
  have hchecked : ∀ document profile,
      (checkOutcome document profile).ending ≠ .write destination archive := by
    intro document profile
    unfold checkOutcome
    dsimp only
    split
    · exact nofun
    · split
      · exact nofun
      · exact nofun
  cases command with
  | exportSite document target given settings => exact absurd rfl (h document target given settings)
  | help => exact nofun
  | targets => exact nofun
  | check document target =>
    rw [outcome]
    split
    · exact nofun
    · exact hchecked _ _
  | preview document page target =>
    rw [outcome]
    unfold Outcome.ofExcept
    split
    · next more ending hdone =>
      obtain ⟨_, _, hdone⟩ := bind_eq_ok.1 hdone
      obtain ⟨_, _, hdone⟩ := bind_eq_ok.1 hdone
      have hending : Ending.status 0 = ending := congrArg Prod.snd (Except.ok.inj hdone)
      rw [← hending]
      exact nofun
    · exact nofun

/-- A run that asks for no file to be written leaves the tree, and an export cannot end it well. -/
theorem KeepsFiles.of_same {files : FileTree FileContent} {folder : Place} {run : Run}
    (h : ∀ document target given settings status,
      command = .exportSite document target given settings → run.result ≠ .ok status) :
    command.KeepsFiles objects files folder (run, files) where
  failed := fun _ _ _ => rfl
  exported := fun document target given settings status hcommand hresult =>
    absurd hresult (h document target given settings status hcommand)
  others := fun _ => rfl

/-- **A command keeps the files**: all of them when it fails, and all but its archive otherwise. -/
theorem run_keepsFiles (command : Command) (objects : Text.Objects)
    (files : FileTree FileContent) (folder : Place) (refusals : Refusals) :
    command.KeepsFiles objects files folder (command.run objects files folder refusals) := by
  cases hending : (command.outcome objects (readState files folder)).ending with
  | status code =>
    simp only [run, hending]
    refine .of_same fun document target given settings status hcommand _ => ?_
    -- an export has no status before its archive is written
    rw [hcommand] at hending
    rcases exportSite_cases objects (readState files folder) document settings target given with
      ⟨fault, hfault⟩ | ⟨own, loaded, result, _, _, _, hresult⟩
    · rw [hending] at hfault
      cases hfault
    · rw [hending] at hresult
      cases hresult
  | failed fault =>
    simp only [run, hending]
    exact .of_same nofun
  | write destination archive =>
    have hwrite := files.write_allOrNothing folder destination (.archive archive) refusals
    have hothers : ∀ {ran : Run × FileTree FileContent},
        (∀ document target given settings,
          command ≠ .exportSite document target given settings) → ran.2 = files :=
      fun hcommand => absurd hending (ending_ne_write hcommand destination archive)
    simp only [run, hending]
    -- what is known of the write is enough; it is not looked into again
    generalize files.write folder destination (.archive archive) refusals = written at hwrite ⊢
    cases hfault : written.fault with
    | some fault =>
      exact ⟨fun _ _ => hwrite.unchanged fault hfault,
        fun _ _ _ _ _ _ hresult => (nomatch hresult), hothers⟩
    | none =>
      refine ⟨nofun, fun document target given settings status hcommand _ => ?_, hothers⟩
      rw [hcommand] at hending
      rcases exportSite_cases objects (readState files folder) document settings target given with
        ⟨fault, hfailed⟩ | ⟨own, loaded, result, hown, hloaded, hexported, hresult⟩
      · rw [hending] at hfailed
        cases hfailed
      · rw [hending] at hresult
        obtain ⟨rfl, rfl⟩ := Ending.write.inj hresult
        exact ⟨own, loaded, result, hown, hloaded, hexported, hwrite.written hfault, hwrite.others⟩

end Command

end Pagewright
