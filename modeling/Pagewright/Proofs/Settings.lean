import Pagewright.Export.Settings
import Pagewright.Proofs.Layouts
import Pagewright.Proofs.Words
import Pagewright.Text.KnownObject

/-!
# What a settings file may say

A file that holds nothing gives the default settings, and any other has to hold a mapping. Each key
is read by itself, and one that is not there has its default: `SetsTarget`, `SetsFolder`,
`SetsPattern` and `SetsTimeout` relate what stands at a key to what it sets, and
`ExportSettings.GivenBy` puts them together without an order of reading. The settings that are read
are the ones that are given (`ofEntries_eq_ok`).

A value of a wrong shape is refused with a report of its key. Four readings have no guard against
what they may meet: a key that is no text, a folder that is no text, a pattern that asks a text for
what it has not or for more room than there is, and a whole number of seconds beyond the binary64
numbers. Each of them stops the reading with a fault that is no refusal, as soon as it is reached;
`Props.Unguarded` says when one is, and every other mapping is read or refused. What a text has is
left to any `Objects`.
-/

namespace Pagewright

open Pagewright.Text Pagewright.Number

/-! ## Numbers of seconds -/

/-- A positive integer is nearest to a positive number, however large it is. -/
theorem isPositive_ofInt {n : Int} (h : 0 < n) : (Binary64.ofInt n).isPositive = true := by
  have hsign : decide (n < 0) = false := decide_eq_false (by omega)
  have hnum : n.natAbs ≠ 0 := by omega
  have hexponent : -1 ≤ binaryExponent n.natAbs 1 := by
    have hden : Nat.log2 1 = 0 := rfl
    rw [binaryExponent, hden]
    split <;> omega
  -- the exponent is not the least one, so the mantissa has all its bits
  have hparts : ∀ (m : Nat) (q : Int), -1074 < q →
      (Binary64.ofParts false m q).isPositive = true := by
    intro m q hq
    rw [Binary64.ofParts]
    split
    · next hadmissible =>
      have hbits : twoPow 52 ≤ m := hadmissible.2.2.2.resolve_right (by omega)
      have hm : m ≠ 0 := Nat.ne_of_gt (Nat.lt_of_lt_of_le (twoPow_pos 52) hbits)
      simpa [Binary64.isPositive, Finite64.isPositive] using hm
    · rfl
  rw [Binary64.ofInt, hsign, Binary64.ofRatio, if_neg hnum]
  dsimp only
  split
  · exact hparts _ _ (by omega)
  · exact hparts _ _ (by omega)

/-! ## Refusals -/

/-- Does the trial of a pattern report the fault of an object? It does when a key, a position or a
value is at fault. -/
def Text.ObjectFault.isGuarded : ObjectFault → Bool
  | .noSuchKey _ => true
  | .pastEnd _ => true
  | .unfitValue _ => true
  | _ => false

/-- Does the trial of a pattern report the fault? It is not guarded against parts that a value does
not have, nor against a width for which there is no room. -/
def Text.PatternFault.isGuarded : PatternFault → Bool
  | .notAPosition => false
  | .noRoom => false
  | .object fault => fault.isGuarded
  | _ => true

/-- Does the fault refuse settings for what they say? -/
def SettingsFault.isRefusal : SettingsFault → Bool
  | .notMapping => true
  | .unknownKeys _ _ => true
  | .target => true
  | .archivePattern => true
  | .archiveReference fault => fault.isGuarded
  | .timeout => true
  | _ => false

/-- A reading stops at something that it does not refuse. -/
def Slips {α : Type} (reading : Except SettingsFault α) : Prop :=
  ∃ fault, reading = .error fault ∧ fault.isRefusal = false

section Slips

variable {α β : Type}

theorem not_slips_ok (a : α) : ¬ Slips (.ok a : Except SettingsFault α) :=
  fun ⟨_, h, _⟩ => nomatch h

theorem slips_error {fault : SettingsFault} :
    Slips (.error fault : Except SettingsFault α) ↔ fault.isRefusal = false :=
  ⟨fun ⟨_, h, hfault⟩ => by cases h; exact hfault, fun h => ⟨fault, rfl, h⟩⟩

/-- A sequence of readings slips at the first of them that does not succeed. -/
theorem slips_bind {reading : Except SettingsFault α} {rest : α → Except SettingsFault β} :
    Slips (reading >>= rest) ↔ Slips reading ∨ ∃ a, reading = .ok a ∧ Slips (rest a) := by
  cases reading with
  | error fault =>
    have hstop : (.error fault >>= rest : Except SettingsFault β) = .error fault := rfl
    rw [hstop, slips_error, slips_error]
    refine ⟨Or.inl, fun h => h.resolve_right ?_⟩
    rintro ⟨a, ha, _⟩
    cases ha
  | ok a =>
    refine ⟨fun h => Or.inr ⟨a, rfl, h⟩, fun h => h.elim (absurd · (not_slips_ok a)) ?_⟩
    rintro ⟨b, hb, h⟩
    cases hb
    exact h

theorem slips_behind {reading : Except SettingsFault α} {rest : α → Except SettingsFault β} {a : α}
    (h : reading = .ok a) (hrest : Slips (rest a)) : Slips (reading >>= rest) :=
  slips_bind.2 (Or.inr ⟨a, h, hrest⟩)

end Slips

/-! ## The keys -/

/-- All keys are keys of the settings. -/
def Props.KnownKeys (entries : Props) : Prop :=
  ∀ entry ∈ entries, ∃ name ∈ settingsKeys, entry.1 = .text name

section Keys

variable {path : Path} {entries : Props}

theorem unknownNames_of_texts {keys : List Key} (h : ∀ key ∈ keys, ∃ name, key = .text name) :
    ∃ unknown, keys.filterMapM unknownName? = .ok unknown ∧
      (unknown = [] ↔ ∀ key ∈ keys, ∃ name ∈ settingsKeys, key = .text name) := by
  induction keys with
  | nil => exact ⟨[], rfl, iff_of_true rfl fun key hkey => absurd hkey List.not_mem_nil⟩
  | cons key rest ih =>
    obtain ⟨unknown, hrest, hnone⟩ := ih fun other hother => h other (by simp [hother])
    obtain ⟨name, rfl⟩ := h key (by simp)
    rw [List.filterMapM_cons, hrest]
    by_cases hname : name ∈ settingsKeys
    · have hread : unknownName? (.text name) = .ok none := by rw [unknownName?, if_pos hname]
      rw [hread]
      exact ⟨unknown, rfl, hnone.trans (by simp [hname])⟩
    · have hread : unknownName? (.text name) = .ok (some name) := by
        rw [unknownName?, if_neg hname]
      rw [hread]
      refine ⟨name :: unknown, rfl, iff_of_false (List.cons_ne_nil _ _) fun hall => ?_⟩
      obtain ⟨other, hother, heq⟩ := hall (.text name) (by simp)
      cases heq
      exact hname hother

theorem unknownNames_of_other {keys : List Key} (h : ∃ key ∈ keys, ∀ name, key ≠ .text name) :
    keys.filterMapM unknownName? = .error .keyNotText := by
  induction keys with
  | nil =>
    obtain ⟨key, hkey, _⟩ := h
    exact absurd hkey List.not_mem_nil
  | cons key rest ih =>
    rw [List.filterMapM_cons]
    by_cases htext : ∃ name, key = .text name
    · obtain ⟨name, rfl⟩ := htext
      obtain ⟨other, hother, hne⟩ := h
      have hrest : other ∈ rest := (List.mem_cons.1 hother).resolve_left fun heq => hne name heq
      rw [ih ⟨other, hrest, hne⟩, unknownName?]
      by_cases hname : name ∈ settingsKeys
      · rw [if_pos hname]
        rfl
      · rw [if_neg hname]
        rfl
    · have hkey : unknownName? key = .error .keyNotText := by
        unfold unknownName?
        split
        · next name => exact absurd ⟨name, rfl⟩ htext
        · rfl
      rw [hkey]
      rfl

theorem checkKeys_of_texts (h : ∀ entry ∈ entries, ∃ name, entry.1 = .text name) :
    (entries.KnownKeys ∧ checkKeys path entries = .ok ()) ∨
      ¬ entries.KnownKeys ∧ ∃ names, checkKeys path entries = .error (.unknownKeys path names) := by
  have hkeys : ∀ key ∈ entries.map Prod.fst, ∃ name, key = .text name := by
    intro key hkey
    obtain ⟨entry, hentry, rfl⟩ := List.mem_map.1 hkey
    exact h entry hentry
  obtain ⟨unknown, hread, hnone⟩ := unknownNames_of_texts hkeys
  have hnames : (∀ key ∈ entries.map Prod.fst, ∃ name ∈ settingsKeys, key = .text name) ↔
      entries.KnownKeys := List.forall_mem_map
  rw [hnames] at hnone
  rw [checkKeys, hread]
  cases unknown with
  | nil => exact Or.inl ⟨hnone.1 rfl, rfl⟩
  | cons name more => exact Or.inr ⟨fun hall => List.cons_ne_nil _ _ (hnone.2 hall), _, rfl⟩

theorem checkKeys_of_other (h : ∃ entry ∈ entries, ∀ name, entry.1 ≠ .text name) :
    checkKeys path entries = .error .keyNotText := by
  obtain ⟨entry, hentry, hne⟩ := h
  rw [checkKeys, unknownNames_of_other ⟨entry.1, List.mem_map_of_mem hentry, hne⟩]
  rfl

theorem texts_or_other (entries : Props) : (∀ entry ∈ entries, ∃ name, entry.1 = .text name) ∨
    ∃ entry ∈ entries, ∀ name, entry.1 ≠ .text name := by
  by_cases h : ∀ entry ∈ entries, ∃ name, entry.1 = .text name
  · exact Or.inl h
  · simpa using Or.inr h

theorem checkKeys_eq_ok : checkKeys path entries = .ok () ↔ entries.KnownKeys := by
  rcases texts_or_other entries with htexts | hother
  · rcases checkKeys_of_texts htexts with ⟨hknown, hread⟩ | ⟨hunknown, names, hread⟩
    · exact iff_of_true hread hknown
    · exact iff_of_false (by rw [hread]; nofun) hunknown
  · refine iff_of_false (by rw [checkKeys_of_other hother]; nofun) fun hknown => ?_
    obtain ⟨entry, hentry, hne⟩ := hother
    obtain ⟨name, _, hname⟩ := hknown entry hentry
    exact hne name hname

theorem slips_checkKeys :
    Slips (checkKeys path entries) ↔ ∃ entry ∈ entries, ∀ name, entry.1 ≠ .text name := by
  rcases texts_or_other entries with htexts | hother
  · refine iff_of_false ?_ fun ⟨entry, hentry, hne⟩ => ?_
    · rcases checkKeys_of_texts htexts with ⟨_, hread⟩ | ⟨_, names, hread⟩
      · rw [hread]
        exact not_slips_ok ()
      · rw [hread, slips_error]
        exact Bool.noConfusion
    · obtain ⟨name, hname⟩ := htexts entry hentry
      exact hne name hname
  · rw [checkKeys_of_other hother, slips_error]
    exact iff_of_true rfl hother

end Keys

/-! ## What a key sets -/

/-- The target that a value sets. -/
inductive SetsTarget : Option Value → String → Prop where
  | default : SetsTarget none "shadcn"
  | filled {s : String} : trim s.toList ≠ [] →
      SetsTarget (some (.text s)) (String.ofList (trim s.toList))

/-- The folder that a value sets. -/
inductive SetsFolder : Option Value → Path → Prop where
  | default : SetsFolder none (.ofText "dist")
  | path (s : String) : SetsFolder (some (.text s)) (.ofText s)

/-- The pattern of archive names that a value sets: one that a target can fill. -/
inductive SetsPattern (objects : Objects) : Option Value → String → Prop where
  | default : SetsPattern objects none defaultArchivePattern
  | fillable {s name : String} : trim s.toList ≠ [] → archiveName objects s "probe" = .ok name →
      SetsPattern objects (some (.text s)) s

/-- The number of seconds that a value sets. -/
inductive SetsTimeout : Option Value → Option Binary64 → Prop where
  | default : SetsTimeout none none
  | null : SetsTimeout (some .null) none
  | whole {n : Int} : 0 < n → fitsBinary64 n = true → SetsTimeout (some (.int n)) (some (.ofInt n))
  | real {x : Binary64} : x.isPositive = true → SetsTimeout (some (.float x)) (some x)

section Values

variable {objects : Objects} {v : Value} {o : Option Value}

theorem filledText_eq_ok {fault : SettingsFault} {s : String} :
    filledText fault v = .ok s ↔ v = .text s ∧ trim s.toList ≠ [] := by
  unfold filledText
  split
  · next t =>
    split
    · next hblank =>
      refine iff_of_false nofun fun ⟨heq, hne⟩ => ?_
      cases heq
      exact hne (List.isEmpty_iff.1 hblank)
    · next hfilled =>
      refine ⟨fun h => ?_, fun ⟨heq, _⟩ => by cases heq; rfl⟩
      cases h
      exact ⟨rfl, fun hnil => hfilled (List.isEmpty_iff.2 hnil)⟩
  · next hother => exact iff_of_false nofun fun ⟨heq, _⟩ => hother s heq

/-- A text that may not be blank is read or refused by the fault of its key. -/
theorem not_slips_filledText {fault : SettingsFault} (h : fault.isRefusal = true) :
    ¬ Slips (filledText fault v) := by
  have hrefused : ¬ Slips (.error fault : Except SettingsFault String) := by
    rw [slips_error, h]
    exact Bool.noConfusion
  unfold filledText
  split
  · split
    · exact hrefused
    · exact not_slips_ok _
  · exact hrefused

theorem readTarget_eq_ok {target : String} :
    o.elim (.ok "shadcn") readTarget = .ok target ↔ SetsTarget o target := by
  cases o with
  | none => exact ⟨fun h => Except.ok.inj h ▸ .default, fun h => by cases h; rfl⟩
  | some v =>
    refine map_eq_ok.trans ⟨?_, ?_⟩
    · rintro ⟨s, hs, rfl⟩
      obtain ⟨rfl, hne⟩ := filledText_eq_ok.1 hs
      exact .filled hne
    · rintro (_ | hne)
      exact ⟨_, filledText_eq_ok.2 ⟨rfl, hne⟩, rfl⟩

theorem not_slips_readTarget : ¬ Slips (o.elim (.ok "shadcn") readTarget) := by
  cases o with
  | none => exact not_slips_ok _
  | some v =>
    intro h
    have hmap : readTarget v =
        filledText .target v >>= fun s => .ok (String.ofList (trim s.toList)) := by
      rw [readTarget]
      cases filledText .target v <;> rfl
    have hread : Slips (readTarget v) := h
    rw [hmap, slips_bind] at hread
    rcases hread with hslips | ⟨s, _, hslips⟩
    · exact not_slips_filledText rfl hslips
    · exact not_slips_ok _ hslips

theorem readFolder_eq_ok {folder : Path} :
    o.elim (.ok (.ofText "dist")) readFolder = .ok folder ↔ SetsFolder o folder := by
  cases o with
  | none => exact ⟨fun h => Except.ok.inj h ▸ .default, fun h => by cases h; rfl⟩
  | some v =>
    show readFolder v = .ok folder ↔ _
    refine ⟨fun h => ?_, fun h => by cases h; rfl⟩
    unfold readFolder at h
    split at h
    · next s => exact Except.ok.inj h ▸ .path s
    · cases h

theorem slips_readFolder :
    Slips (o.elim (.ok (.ofText "dist")) readFolder) ↔ ∃ v, o = some v ∧ v.isText = false := by
  cases o with
  | none => exact iff_of_false (not_slips_ok _) nofun
  | some v =>
    show Slips (readFolder v) ↔ _
    unfold readFolder
    split
    · next s =>
      refine iff_of_false (not_slips_ok _) fun ⟨w, heq, hw⟩ => ?_
      cases heq
      cases hw
    · next hother =>
      refine iff_of_true (slips_error.2 rfl) ⟨v, rfl, ?_⟩
      refine Bool.eq_false_iff.2 fun htext => ?_
      obtain ⟨s, hs⟩ := Value.isText_iff.1 htext
      exact hother s hs

theorem readArchivePattern_eq_ok {pattern : String} :
    o.elim (.ok defaultArchivePattern) (readArchivePattern objects) = .ok pattern ↔
      SetsPattern objects o pattern := by
  cases o with
  | none => exact ⟨fun h => Except.ok.inj h ▸ .default, fun h => by cases h; rfl⟩
  | some v =>
    refine bind_eq_ok.trans ⟨?_, ?_⟩
    · rintro ⟨s, hs, h⟩
      obtain ⟨rfl, hne⟩ := filledText_eq_ok.1 hs
      split at h
      · next name hname => exact Except.ok.inj h ▸ .fillable hne hname
      · cases h
    · rintro (_ | ⟨hne, hname⟩)
      exact ⟨_, filledText_eq_ok.2 ⟨rfl, hne⟩, by rw [hname]; rfl⟩

theorem slips_readArchivePattern :
    Slips (o.elim (.ok defaultArchivePattern) (readArchivePattern objects)) ↔
      ∃ s fault, o = some (.text s) ∧ trim s.toList ≠ [] ∧
        archiveName objects s "probe" = .error fault ∧ fault.isGuarded = false := by
  cases o with
  | none => exact iff_of_false (not_slips_ok _) nofun
  | some v =>
    refine slips_bind.trans ⟨?_, ?_⟩
    · rintro (hslips | ⟨s, hs, hslips⟩)
      · exact absurd hslips (not_slips_filledText rfl)
      · obtain ⟨rfl, hne⟩ := filledText_eq_ok.1 hs
        split at hslips
        · exact absurd hslips (not_slips_ok _)
        · next fault hfault => exact ⟨s, fault, rfl, hne, hfault, slips_error.1 hslips⟩
    · rintro ⟨s, fault, heq, hne, hfault, hunguarded⟩
      cases heq
      refine Or.inr ⟨s, filledText_eq_ok.2 ⟨rfl, hne⟩, ?_⟩
      rw [hfault]
      exact slips_error.2 hunguarded

theorem readTimeout_eq_ok {timeout : Option Binary64} :
    readTimeout (o.getD .null) = .ok timeout ↔ SetsTimeout o timeout := by
  cases o with
  | none => exact ⟨fun h => Except.ok.inj h ▸ .default, fun h => by cases h; rfl⟩
  | some v =>
    show readTimeout v = .ok timeout ↔ _
    constructor
    · intro h
      unfold readTimeout at h
      split at h
      · exact Except.ok.inj h ▸ .null
      · next n =>
        split at h
        · cases h
        · next hpositive =>
          split at h
          · next hfits => exact Except.ok.inj h ▸ .whole (Int.not_le.1 hpositive) hfits
          · cases h
      · next x =>
        split at h
        · next hpositive => exact Except.ok.inj h ▸ .real hpositive
        · cases h
      · cases h
    · rintro (_ | _ | ⟨hpositive, hfits⟩ | hpositive)
      · rfl
      · rw [readTimeout, if_neg (Int.not_le.2 hpositive), if_pos hfits]
      · rw [readTimeout, if_pos hpositive]

theorem slips_readTimeout :
    Slips (readTimeout (o.getD .null)) ↔
      ∃ n, o = some (.int n) ∧ 0 < n ∧ fitsBinary64 n = false := by
  have hrefused : ¬ Slips (.error .timeout : Except SettingsFault (Option Binary64)) := by
    rw [slips_error]
    exact Bool.noConfusion
  cases o with
  | none => exact iff_of_false (not_slips_ok _) nofun
  | some v =>
    show Slips (readTimeout v) ↔ _
    constructor
    · intro h
      unfold readTimeout at h
      split at h
      · exact absurd h (not_slips_ok _)
      · next n =>
        split at h
        · exact absurd h hrefused
        · next hpositive =>
          split at h
          · exact absurd h (not_slips_ok _)
          · next hlarge => exact ⟨n, rfl, Int.not_le.1 hpositive, Bool.eq_false_iff.2 hlarge⟩
      · split at h
        · exact absurd h (not_slips_ok _)
        · exact absurd h hrefused
      · exact absurd h hrefused
    · rintro ⟨n, heq, hpositive, hlarge⟩
      cases heq
      rw [readTimeout, if_neg (Int.not_le.2 hpositive), if_neg (Bool.eq_false_iff.1 hlarge),
        slips_error]
      rfl

/-- A target that is set is neither blank nor has it blanks around it. -/
theorem SetsTarget.trimmed {target : String} (h : SetsTarget o target) :
    target ≠ "" ∧ Trimmed target.toList := by
  rcases h with _ | hne
  · have hfirst : "shadcn".toList.head? = some 's' := by decide
    have hlast : "shadcn".toList.getLast? = some 'n' := by decide
    refine ⟨by decide, fun c hc => ?_, fun c hc => ?_⟩
    · rw [hfirst] at hc
      cases hc
      decide
    · rw [hlast] at hc
      cases hc
      decide
  · refine ⟨fun hempty => hne (String.ofList_eq_empty_iff.1 hempty), ?_⟩
    rw [String.toList_ofList]
    exact trimmed_trim _

theorem SetsTimeout.positive {timeout : Option Binary64} (h : SetsTimeout o timeout) :
    ∀ x ∈ timeout, x.isPositive = true := by
  intro x hx
  rcases h with _ | _ | ⟨hpositive, _⟩ | hpositive
  · cases hx
  · cases hx
  · cases hx
    exact isPositive_ofInt hpositive
  · cases hx
    exact hpositive

end Values

/-! ## The settings of a mapping -/

/-- The settings are those that entries give, key by key. -/
structure ExportSettings.GivenBy (settings : ExportSettings) (objects : Objects)
    (entries : Props) : Prop where
  keys : entries.KnownKeys
  target : SetsTarget (entries.get? "default_target") settings.target
  folder : SetsFolder (entries.get? "output_dir") settings.outputFolder
  pattern : SetsPattern objects (entries.get? "archive_name") settings.archivePattern
  timeout : SetsTimeout (entries.get? "timeout") settings.timeout

/-- A reading of the entries meets a value that it has no guard against. Everything in front of it
is in order. -/
inductive Props.Unguarded (objects : Objects) (entries : Props) : Prop where
  | key {entry : Key × Value} : entry ∈ entries → (∀ name, entry.1 ≠ .text name) →
      Unguarded objects entries
  | folder {target : String} {v : Value} : entries.KnownKeys →
      SetsTarget (entries.get? "default_target") target →
      entries.get? "output_dir" = some v → v.isText = false → Unguarded objects entries
  | pattern {target pattern : String} {folder : Path} {fault : PatternFault} : entries.KnownKeys →
      SetsTarget (entries.get? "default_target") target →
      SetsFolder (entries.get? "output_dir") folder →
      entries.get? "archive_name" = some (.text pattern) → trim pattern.toList ≠ [] →
      archiveName objects pattern "probe" = .error fault → fault.isGuarded = false →
      Unguarded objects entries
  | timeout {target pattern : String} {folder : Path} {seconds : Int} : entries.KnownKeys →
      SetsTarget (entries.get? "default_target") target →
      SetsFolder (entries.get? "output_dir") folder →
      SetsPattern objects (entries.get? "archive_name") pattern →
      entries.get? "timeout" = some (.int seconds) → 0 < seconds →
      fitsBinary64 seconds = false → Unguarded objects entries

namespace ExportSettings

variable {objects : Objects} {path : Path} {entries : Props} {settings : ExportSettings}

/-- **The settings that are read are the ones that are given.** -/
theorem ofEntries_eq_ok :
    ofEntries objects path entries = .ok settings ↔ settings.GivenBy objects entries := by
  unfold ofEntries
  refine bind_eq_ok.trans ⟨?_, ?_⟩
  · rintro ⟨⟨⟩, hkeys, h⟩
    obtain ⟨target, htarget, h⟩ := bind_eq_ok.1 h
    obtain ⟨folder, hfolder, h⟩ := bind_eq_ok.1 h
    obtain ⟨pattern, hpattern, h⟩ := bind_eq_ok.1 h
    obtain ⟨timeout, htimeout, h⟩ := bind_eq_ok.1 h
    cases h
    exact ⟨checkKeys_eq_ok.1 hkeys, readTarget_eq_ok.1 htarget, readFolder_eq_ok.1 hfolder,
      readArchivePattern_eq_ok.1 hpattern, readTimeout_eq_ok.1 htimeout⟩
  · intro h
    exact ⟨(), checkKeys_eq_ok.2 h.keys, bind_eq_ok.2 ⟨_, readTarget_eq_ok.2 h.target,
      bind_eq_ok.2 ⟨_, readFolder_eq_ok.2 h.folder,
        bind_eq_ok.2 ⟨_, readArchivePattern_eq_ok.2 h.pattern,
          bind_eq_ok.2 ⟨_, readTimeout_eq_ok.2 h.timeout, rfl⟩⟩⟩⟩⟩

theorem slips_ofEntries :
    Slips (ofEntries objects path entries) ↔ entries.Unguarded objects := by
  unfold ofEntries
  constructor
  · -- each reading is reached only when those in front of it succeed
    intro h
    rcases slips_bind.1 h with h | ⟨⟨⟩, hkeys, h⟩
    · obtain ⟨entry, hentry, hne⟩ := slips_checkKeys.1 h
      exact .key hentry hne
    have hknown : entries.KnownKeys := checkKeys_eq_ok.1 hkeys
    rcases slips_bind.1 h with h | ⟨target, htarget, h⟩
    · exact absurd h not_slips_readTarget
    rcases slips_bind.1 h with h | ⟨folder, hfolder, h⟩
    · obtain ⟨v, hv, hother⟩ := slips_readFolder.1 h
      exact .folder hknown (readTarget_eq_ok.1 htarget) hv hother
    rcases slips_bind.1 h with h | ⟨pattern, hpattern, h⟩
    · obtain ⟨s, fault, hs, hne, hfault, hunguarded⟩ := slips_readArchivePattern.1 h
      exact .pattern hknown (readTarget_eq_ok.1 htarget) (readFolder_eq_ok.1 hfolder) hs hne hfault
        hunguarded
    rcases slips_bind.1 h with h | ⟨timeout, _, h⟩
    · obtain ⟨n, hn, hpositive, hlarge⟩ := slips_readTimeout.1 h
      exact .timeout hknown (readTarget_eq_ok.1 htarget) (readFolder_eq_ok.1 hfolder)
        (readArchivePattern_eq_ok.1 hpattern) hn hpositive hlarge
    · exact absurd h (not_slips_ok _)
  · rintro (⟨hentry, hne⟩ | ⟨hknown, htarget, hv, hother⟩ |
      ⟨hknown, htarget, hfolder, hs, hne, hfault, hunguarded⟩ |
      ⟨hknown, htarget, hfolder, hpattern, hn, hpositive, hlarge⟩)
    · exact slips_bind.2 (Or.inl (slips_checkKeys.2 ⟨_, hentry, hne⟩))
    · refine slips_behind (checkKeys_eq_ok.2 hknown) (slips_behind (readTarget_eq_ok.2 htarget) ?_)
      exact slips_bind.2 (Or.inl (slips_readFolder.2 ⟨_, hv, hother⟩))
    · refine slips_behind (checkKeys_eq_ok.2 hknown) (slips_behind (readTarget_eq_ok.2 htarget) ?_)
      refine slips_behind (readFolder_eq_ok.2 hfolder) (slips_bind.2 (Or.inl ?_))
      exact slips_readArchivePattern.2 ⟨_, _, hs, hne, hfault, hunguarded⟩
    · refine slips_behind (checkKeys_eq_ok.2 hknown) (slips_behind (readTarget_eq_ok.2 htarget) ?_)
      refine slips_behind (readFolder_eq_ok.2 hfolder)
        (slips_behind (readArchivePattern_eq_ok.2 hpattern) (slips_bind.2 (Or.inl ?_)))
      exact slips_readTimeout.2 ⟨_, hn, hpositive, hlarge⟩

theorem ofEntries_nil (objects : Objects) (path : Path) : ofEntries objects path [] = .ok {} :=
  ofEntries_eq_ok.2 ⟨fun _ h => absurd h List.not_mem_nil, .default, .default, .default, .default⟩

/-! ## The settings of a file -/

variable {content : List UInt8} {text : String} {value : Value}

theorem load_bytes (htext : Text.ofUtf8? content = some text)
    (hvalue : Yaml.read text.toList = .ok value) : load objects path (.bytes content) =
      if value.isVoid then .ok {}
      else value.entries?.elim (.error .notMapping) (ofEntries objects path) := by
  have hcontent : yamlContent text = .ok (if value.isVoid then .map [] else value) := by
    rw [yamlContent, hvalue]
    rfl
  rw [load, htext]
  dsimp only
  rw [hcontent]
  by_cases hvoid : value.isVoid = true
  · rw [if_pos hvoid, if_pos hvoid]
    exact ofEntries_nil objects path
  · rw [if_neg hvoid, if_neg hvoid]
    have hok : (Except.ok value : Except Yaml.Fault Value).mapError SettingsFault.yaml =
        .ok value := rfl
    rw [hok]
    simp only [bind, Except.bind]
    cases value.entries? <;> rfl

end ExportSettings

/-- A value that holds nothing has no entries, if it is a mapping at all. -/
theorem Value.eq_nil_of_isVoid {v : Value} {entries : Props} (h : v.isVoid = true)
    (hentries : v.entries? = some entries) : entries = [] := by
  cases v with
  | map own =>
    cases hentries
    exact List.isEmpty_iff.1 h
  | ordered own =>
    cases hentries
    exact List.isEmpty_iff.1 h
  | scalar s => cases hentries
  | list items => cases hentries
  | row items => cases hentries
  | set elements => cases hentries
  | loop name body => cases h
  | within name enclosure => cases hentries

namespace ExportSettings

variable {objects : Objects} {path : Path} {entries : Props} {settings : ExportSettings}
variable {content : List UInt8} {text : String} {value : Value}

theorem load_eq_ok (htext : Text.ofUtf8? content = some text)
    (hvalue : Yaml.read text.toList = .ok value) :
    load objects path (.bytes content) = .ok settings ↔
      value.isVoid = true ∧ settings = {} ∨
        ∃ entries, value.entries? = some entries ∧ settings.GivenBy objects entries := by
  rw [load_bytes htext hvalue]
  by_cases hvoid : value.isVoid = true
  · rw [if_pos hvoid]
    refine ⟨fun h => Or.inl ⟨hvoid, (Except.ok.inj h).symm⟩, ?_⟩
    rintro (⟨_, rfl⟩ | ⟨entries, hentries, hgiven⟩)
    · rfl
    · -- a mapping that holds nothing gives the default settings
      rw [Value.eq_nil_of_isVoid hvoid hentries] at hgiven
      exact (ofEntries_nil objects path).symm.trans (ofEntries_eq_ok.2 hgiven)
  · rw [if_neg hvoid]
    cases hentries : value.entries? with
    | none => exact iff_of_false nofun (by simp [hvoid])
    | some entries => exact ofEntries_eq_ok.trans (by simp [hvoid])

theorem slips_load (htext : Text.ofUtf8? content = some text)
    (hvalue : Yaml.read text.toList = .ok value) : Slips (load objects path (.bytes content)) ↔
      ∃ entries, value.entries? = some entries ∧ entries.Unguarded objects := by
  rw [load_bytes htext hvalue]
  by_cases hvoid : value.isVoid = true
  · rw [if_pos hvoid]
    refine iff_of_false (not_slips_ok _) fun ⟨entries, hentries, hunguarded⟩ => ?_
    rw [Value.eq_nil_of_isVoid hvoid hentries] at hunguarded
    have hslips : Slips (ofEntries objects path []) := slips_ofEntries.2 hunguarded
    rw [ofEntries_nil] at hslips
    exact not_slips_ok _ hslips
  · rw [if_neg hvoid]
    cases value.entries? with
    | none =>
      refine iff_of_false (fun h => ?_) nofun
      exact absurd (slips_error.1 h) Bool.noConfusion
    | some entries => exact slips_ofEntries.trans (by simp)

/-- **A file of settings is read, refused, or not guarded against.** It is read exactly if it holds
nothing or gives settings; what is read has a trimmed target and leaves time; and it ends in a fault
that is no refusal exactly if a reading meets a value that it has no guard against. -/
theorem load_outcomes (htext : Text.ofUtf8? content = some text)
    (hvalue : Yaml.read text.toList = .ok value) :
    (∀ settings, load objects path (.bytes content) = .ok settings ↔
        value.isVoid = true ∧ settings = {} ∨
          ∃ entries, value.entries? = some entries ∧ settings.GivenBy objects entries) ∧
      (∀ settings, load objects path (.bytes content) = .ok settings →
        settings.target ≠ "" ∧ Trimmed settings.target.toList ∧
          ∀ x ∈ settings.timeout, x.isPositive = true) ∧
      ((∃ fault, load objects path (.bytes content) = .error fault ∧ fault.isRefusal = false) ↔
        ∃ entries, value.entries? = some entries ∧ entries.Unguarded objects) := by
  refine ⟨fun settings => load_eq_ok htext hvalue, fun settings h => ?_, slips_load htext hvalue⟩
  rcases (load_eq_ok htext hvalue).1 h with ⟨_, rfl⟩ | ⟨entries, _, hentries⟩
  · have hdefault := SetsTarget.default.trimmed
    exact ⟨hdefault.1, hdefault.2, SetsTimeout.default.positive⟩
  · exact ⟨hentries.target.trimmed.1, hentries.target.trimmed.2, hentries.timeout.positive⟩

end ExportSettings

/-- The number and the text of a mapping with one entry. -/
def Value.numberedEntry? : Value → Option (Int × String)
  | .map [(.scalar (.int n), .text s)] => some (n, s)
  | _ => none

theorem Value.eq_of_numberedEntry? {v : Value} {n : Int} {s : String}
    (h : v.numberedEntry? = some (n, s)) : v = .map [(.scalar (.int n), .text s)] := by
  unfold numberedEntry? at h
  split at h
  · cases h
    rfl
  · cases h

/-- A file with a number for a key is neither read nor refused. -/
theorem ExportSettings.load_outcomes_numberedKey :
    Text.ofUtf8? [0x31, 0x3A, 0x20, 0x78, 0x0A] = some "1: x\n" ∧
      (∃ value, Yaml.read "1: x\n".toList = .ok value) ∧
      ∃ fault, load .known (.ofText "pagecraft.yaml") (.bytes [0x31, 0x3A, 0x20, 0x78, 0x0A]) =
        .error fault ∧ fault.isRefusal = false := by
  have htext : Text.ofUtf8? [0x31, 0x3A, 0x20, 0x78, 0x0A] = some "1: x\n" := by decide
  have hentry : (Yaml.read "1: x\n".toList).toOption.bind Value.numberedEntry? = some (1, "x") := by
    decide +kernel
  obtain ⟨value, hvalue, hone⟩ := Option.bind_eq_some_iff.1 hentry
  have hread : Yaml.read "1: x\n".toList = .ok value := toOption_eq_some.1 hvalue
  have hentries : value.entries? = some [(.scalar (.int 1), .text "x")] := by
    rw [Value.eq_of_numberedEntry? hone]
    rfl
  have hunguarded : Props.Unguarded .known [(.scalar (.int 1), .text "x")] :=
    .key List.mem_cons_self fun name => nofun
  exact ⟨htext, ⟨value, hread⟩, (load_outcomes htext hread).2.2.2 ⟨_, hentries, hunguarded⟩⟩

end Pagewright
