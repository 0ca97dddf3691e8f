import LspClient.Trace.Channel
import LspClient.Proofs.Directories
import LspClient.Proofs.Utf8Pieces

/-!
# The files of trace channels

A channel's file is named by its slug, and many names have one slug. So what a file holds in the end is what all the
channels with its slug have written, in the order in which they were open. The slug of any name is one name within a
directory, so nothing is written anywhere else, and the only obstacle to opening a channel is the system's limit on
the length of names and paths.

The run is followed through the directory as a map from file names to contents: each channel that can be opened adds its
lines to its own entry, and the tree is the one in which the directory was made with these files put in.
-/

namespace LspClient.Trace

/-- A character that slugs are made of: a small letter, a digit, the hyphen or the low line. -/
def IsSlugChar (c : Char) : Prop :=
  (97 ≤ c.toNat ∧ c.toNat ≤ 122) ∨ (48 ≤ c.toNat ∧ c.toNat ≤ 57) ∨ c = '-' ∨ c = '_'

theorem lowerAscii_of_not_capital {c : Char} (h : ¬ (65 ≤ c.toNat ∧ c.toNat ≤ 90)) : Text.lowerAscii c = c :=
  if_neg h

theorem toNat_lowerAscii_of_capital {c : Char} (h : 65 ≤ c.toNat ∧ c.toNat ≤ 90) :
    (Text.lowerAscii c).toNat = c.toNat + 32 := by
  have hlower : Text.lowerAscii c = Char.ofNat (c.toNat + 32) := if_pos h
  rw [hlower, Utf8.toNat_ofNat (by omega)]

theorem kept_iff (c : Char) :
    (Text.isAlphanumeric c || c = '-' || c = '_') = true ↔ (65 ≤ c.toNat ∧ c.toNat ≤ 90) ∨ IsSlugChar c := by
  simp only [Text.isAlphanumeric, Bool.or_eq_true, Bool.and_eq_true, decide_eq_true_eq, IsSlugChar]
  grind

theorem isSlugChar_slugChar (c : Char) : IsSlugChar (slugChar c) := by
  unfold slugChar
  split
  · rename_i hkept
    by_cases hcapital : 65 ≤ c.toNat ∧ c.toNat ≤ 90
    · left
      rw [toNat_lowerAscii_of_capital hcapital]
      omega
    · rw [lowerAscii_of_not_capital hcapital]
      exact ((kept_iff c).mp hkept).resolve_left hcapital
  · exact .inr (.inr (.inl rfl))

theorem slugChar_of_isSlugChar {c : Char} (h : IsSlugChar c) : slugChar c = c := by
  have hsmall : ¬ (65 ≤ c.toNat ∧ c.toNat ≤ 90) := by
    rcases h with h | h | rfl | rfl
    · omega
    · omega
    · decide
    · decide
  rw [slugChar, if_pos ((kept_iff c).mpr (.inr h)), lowerAscii_of_not_capital hsmall]

theorem toList_slug {name : String} (h : name.toList ≠ []) : (slug name).toList = name.toList.map slugChar := by
  rw [slug, if_neg h, String.toList_ofList]

theorem isSlugChar_of_mem_slug {name : String} {c : Char} (hc : c ∈ (slug name).toList) : IsSlugChar c := by
  by_cases h : name.toList = []
  · have htrace : "trace".toList.all (fun c => decide (97 ≤ c.toNat ∧ c.toNat ≤ 122)) = true := by decide
    rw [slug, if_pos h] at hc
    exact .inl (of_decide_eq_true (List.all_eq_true.mp htrace c hc))
  · rw [toList_slug h] at hc
    obtain ⟨d, -, rfl⟩ := List.mem_map.mp hc
    exact isSlugChar_slugChar d

theorem toList_slug_ne_nil (name : String) : (slug name).toList ≠ [] := by
  by_cases h : name.toList = []
  · rw [slug, if_pos h]
    decide
  · rw [toList_slug h]
    simpa using h

theorem slug_slug (name : String) : slug (slug name) = slug name := by
  apply String.toList_inj.mp
  rw [toList_slug (toList_slug_ne_nil name)]
  calc (slug name).toList.map slugChar = (slug name).toList.map id :=
        List.map_congr_left fun c hc => slugChar_of_isSlugChar (isSlugChar_of_mem_slug hc)
    _ = (slug name).toList := List.map_id _

theorem length_slug {name : String} (h : name ≠ "") : (slug name).length = name.length := by
  have hne : name.toList ≠ [] := fun hnil => h (String.toList_eq_nil_iff.mp hnil)
  rw [← String.length_toList, ← String.length_toList, toList_slug hne, List.length_map]

/-- The name of a channel's file. -/
def logName (name : String) : Bytes :=
  Bytes.ofString (fileName name)

theorem toList_fileName (name : String) : (fileName name).toList = (slug name).toList ++ ".log".toList :=
  String.toList_append

theorem ascii_of_mem_fileName {name : String} {c : Char} (hc : c ∈ (fileName name).toList) :
    c.toNat < 0x80 ∧ c.toNat ≠ 0x2F := by
  rw [toList_fileName] at hc
  rcases List.mem_append.mp hc with hc | hc
  · rcases isSlugChar_of_mem_slug hc with h | h | rfl | rfl
    · omega
    · omega
    · decide
    · decide
  · have hlog : ".log".toList.all (fun c => decide (c.toNat < 0x80 ∧ c.toNat ≠ 0x2F)) = true := by decide
    exact of_decide_eq_true (List.all_eq_true.mp hlog c hc)

theorem length_logName (name : String) : (logName name).length = (slug name).length + 4 := by
  rw [logName, Bytes.ofString, Utf8.encode_of_ascii fun c hc => (ascii_of_mem_fileName hc).1, List.length_map,
    toList_fileName, List.length_append, String.length_toList]
  rfl

theorem isEntry_logName (name : String) : FileTree.IsEntry (logName name) := by
  have hlength := length_logName name
  have hpositive : 0 < (slug name).length := by
    rw [← String.length_toList]
    exact List.length_pos_iff.mpr (toList_slug_ne_nil name)
  have hne : ∀ q : Bytes, q.length < 5 → logName name ≠ q := by
    rintro q hq rfl
    omega
  refine ⟨⟨hne [] (by decide), hne _ (by decide), ?_⟩, hne _ (by decide)⟩
  exact Utf8.not_mem_encode (by decide) fun c hc => (ascii_of_mem_fileName hc).2

theorem logName_eq_iff {name name' : String} : logName name = logName name' ↔ slug name = slug name' := by
  constructor
  · intro h
    have hchars := Utf8.encode_injective h
    rw [toList_fileName, toList_fileName] at hchars
    exact String.toList_inj.mp (List.append_cancel_right hchars)
  · intro h
    rw [logName, logName, fileName, fileName, h]

/-- What lines come to in a file. -/
def lineBytes (lines : List String) : Bytes :=
  lines.flatMap fun line => Bytes.ofString (line ++ "\n")

/-- Opens a channel, appends its lines and closes it. -/
def record (t : FileTree) (cwd : Location) (directory : Bytes) (channel : String × List String) :
    FileTree × Except OsError File :=
  match File.create t cwd directory channel.1 with
  | .ok (t, f) => (channel.2.foldl (fun t line => f.append t cwd line) t, .ok f)
  | .error e => (t, .error e)

/-- Records channels one after the other. -/
def recordAll (t : FileTree) (cwd : Location) (directory : Bytes) :
    List (String × List String) → FileTree × List (Except OsError File)
  | [] => (t, [])
  | channel :: rest =>
    let (t, opened) := record t cwd directory channel
    let (t, others) := recordAll t cwd directory rest
    (t, opened :: others)

/-- What the channels with a slug have written, in their order. -/
def recorded (channels : List (String × List String)) (s : String) : Bytes :=
  (channels.filter fun c => slug c.1 = s).flatMap fun c => lineBytes c.2

/-- The contents of files by their names. -/
abbrev Logs := Bytes → Option Bytes

namespace Logs

def set (logs : Logs) (q content : Bytes) : Logs :=
  fun r => if r = q then some content else logs r

theorem set_set (logs : Logs) (q content content' : Bytes) :
    (logs.set q content).set q content' = logs.set q content' := by
  funext r
  simp only [set]
  split <;> rfl

/-- What a channel makes of the files of a directory. -/
def add (directory : Bytes) (logs : Logs) (channel : String × List String) : Logs :=
  if FileTree.Fits directory (logName channel.1) then
    logs.set (logName channel.1) ((logs (logName channel.1)).getD [] ++ lineBytes channel.2)
  else logs

theorem add_apply (directory : Bytes) (logs : Logs) (channel : String × List String) (q : Bytes) :
    add directory logs channel q =
      if FileTree.Fits directory q ∧ logName channel.1 = q then some ((logs q).getD [] ++ lineBytes channel.2)
      else logs q := by
  unfold add
  by_cases hq : logName channel.1 = q
  · subst hq
    by_cases hfits : FileTree.Fits directory (logName channel.1) <;> simp [hfits, set]
  · have hother : ¬ (FileTree.Fits directory q ∧ logName channel.1 = q) := fun h => hq h.2
    rw [if_neg hother]
    split
    · exact if_neg (Ne.symm hq)
    · rfl

/-- Channels add to a file one by one, and only those whose file it is. -/
theorem foldl_add (directory : Bytes) (channels : List (String × List String)) (logs : Logs) (q : Bytes) :
    channels.foldl (add directory) logs q =
      if FileTree.Fits directory q ∧ ∃ c ∈ channels, logName c.1 = q then
        some ((logs q).getD [] ++ (channels.filter fun c => logName c.1 = q).flatMap fun c => lineBytes c.2)
      else logs q := by
  induction channels generalizing logs with
  | nil => simp
  | cons c channels ih =>
    rw [List.foldl_cons, ih, add_apply]
    by_cases hfits : FileTree.Fits directory q
    · by_cases hq : logName c.1 = q
      · by_cases hrest : ∃ c ∈ channels, logName c.1 = q
        · simp [hfits, hq, hrest]
        · have hnone : (channels.filter fun c => logName c.1 = q) = [] := by
            apply List.filter_eq_nil_iff.mpr
            intro d hd hdq
            exact hrest ⟨d, hd, of_decide_eq_true hdq⟩
          simp [hfits, hq, hrest, hnone]
      · have hcons : (∃ d ∈ c :: channels, logName d.1 = q) ↔ ∃ d ∈ channels, logName d.1 = q := by simp [hq]
        simp only [hcons, hfits, hq, true_and, if_false, decide_false, List.filter_cons, Bool.false_eq_true]
    · simp [hfits]

theorem filter_logName_eq (channels : List (String × List String)) (name : String) :
    ((channels.filter fun c => logName c.1 = logName name).flatMap fun c => lineBytes c.2) =
      recorded channels (slug name) := by
  have hsame : ∀ c ∈ channels, decide (logName c.1 = logName name) = decide (slug c.1 = slug name) := by
    intro c _
    rw [decide_eq_decide]
    exact logName_eq_iff
  rw [recorded, List.filter_congr hsame]

theorem foldl_add_eq_some_iff {directory : Bytes} {channels : List (String × List String)} {q content : Bytes} :
    channels.foldl (add directory) (fun _ => none) q = some content ↔
      ∃ c ∈ channels, FileTree.Fits directory (logName c.1) ∧ q = logName c.1 ∧
        content = recorded channels (slug c.1) := by
  rw [foldl_add]
  constructor
  · intro h
    split at h
    · rename_i hopened
      obtain ⟨hfits, c, hc, rfl⟩ := hopened
      cases h
      exact ⟨c, hc, hfits, rfl, by rw [Option.getD_none, List.nil_append, filter_logName_eq]⟩
    · cases h
  · rintro ⟨c, hc, hfits, rfl, rfl⟩
    rw [if_pos ⟨hfits, c, hc, rfl⟩, Option.getD_none, List.nil_append, filter_logName_eq]

end Logs

/-- What comes of opening a channel. -/
def outcome (directory : Bytes) (name : String) : Except OsError File :=
  if FileTree.Fits directory (logName name) then .ok ⟨name, Path.join directory (logName name)⟩ else .error .nameTooLong

/-- A directory that has been made and has nothing in it yet. -/
structure Prepared (made : FileTree) (cwd : Location) (directory : Bytes) : Prop where
  sound : made.Sound
  short : directory.length ≤ FileTree.maxPathBytes
  passes : made.Passes (FileTree.origin cwd directory) (FileTree.steps directory)
  empty : ∀ q, made.node? (FileTree.location cwd directory ++ [q]) = none

/-- A tree that has files in a directory and is otherwise as the directory was made. -/
structure Stores (made : FileTree) (here : Location) (t : FileTree) (logs : Logs) : Prop where
  sound : t.Sound
  inside : ∀ q, t.node? (here ++ [q]) = (logs q).map (.file · false)
  outside : ∀ l, (∀ q, l ≠ here ++ [q]) → t.node? l = made.node? l

namespace Prepared
variable {made : FileTree} {cwd : Location} {directory : Bytes} (h : Prepared made cwd directory)
include h

theorem stores : Stores made (FileTree.location cwd directory) made fun _ => none :=
  ⟨h.sound, h.empty, fun _ _ => rfl⟩

section Files
variable {t : FileTree} {logs : Logs} (hs : Stores made (FileTree.location cwd directory) t logs)
include hs

theorem passes_of_stores : t.Passes (FileTree.origin cwd directory) (FileTree.steps directory) := by
  apply h.passes.mono
  intro l hl
  rw [hs.outside l, hl]
  rintro q rfl
  rw [h.empty q] at hl
  cases hl

theorem createDirectories_eq : t.createDirectories cwd directory = .ok t :=
  (h.passes_of_stores hs).createDirectories_eq h.short

variable {q : Bytes} (hq : FileTree.IsEntry q) (hfits : FileTree.Fits directory q)
include hq hfits

theorem append_stores (bytes : Bytes) :
    ∃ t', t.append cwd (Path.join directory q) bytes = .ok t' ∧
      Stores made (FileTree.location cwd directory) t' (logs.set q ((logs q).getD [] ++ bytes)) := by
  have hpasses := h.passes_of_stores hs
  refine ⟨_, FileTree.append_join hpasses hq hfits (hs.inside q) bytes, ?_, ?_, ?_⟩
  · apply hs.sound.put hpasses.node?_place
    rw [← FileTree.location, hs.inside q]
    cases logs q <;> simp
  · intro r
    by_cases hr : r = q
    · subst hr
      rw [FileTree.node?_put_self, Logs.set, if_pos rfl, Option.map_some]
    · rw [FileTree.node?_put_of_ne t (by simpa using hr), Logs.set, if_neg hr, hs.inside r]
  · intro l hl
    rw [FileTree.node?_put_of_ne t (hl q), hs.outside l hl]

end Files

/-- Lines go to the end of the file that is open, one by one. -/
theorem foldl_append_stores {f : File} {q : Bytes} (hf : f.path = Path.join directory q) (hq : FileTree.IsEntry q)
    (hfits : FileTree.Fits directory q) {t : FileTree} {logs : Logs} {content : Bytes}
    (hs : Stores made (FileTree.location cwd directory) t (logs.set q content)) (lines : List String) :
    Stores made (FileTree.location cwd directory) (lines.foldl (fun t line => f.append t cwd line) t)
      (logs.set q (content ++ lineBytes lines)) := by
  induction lines generalizing t content with
  | nil => simpa [lineBytes] using hs
  | cons line lines ih =>
    obtain ⟨t', happend, hs'⟩ := h.append_stores hs hq hfits (Bytes.ofString (line ++ "\n"))
    have hself : (logs.set q content) q = some content := if_pos rfl
    rw [hself, Option.getD_some, Logs.set_set] at hs'
    rw [List.foldl_cons, File.append, hf, happend]
    have hrest := ih hs'
    rw [List.append_assoc] at hrest
    exact hrest

section Record
variable {t t' : FileTree} {logs : Logs} (hmake : t.createDirectories cwd directory = .ok t')
  (hs : Stores made (FileTree.location cwd directory) t' logs)
include hmake hs

theorem create_of_fits {name : String} (hfits : FileTree.Fits directory (logName name)) :
    ∃ opened, File.create t cwd directory name = .ok (opened, ⟨name, Path.join directory (logName name)⟩) ∧
      Stores made (FileTree.location cwd directory) opened
        (logs.set (logName name) ((logs (logName name)).getD [])) := by
  obtain ⟨opened, happend, hopened⟩ := h.append_stores hs (isEntry_logName name) hfits []
  rw [List.append_nil] at hopened
  refine ⟨opened, ?_, hopened⟩
  simp only [File.create, hmake]
  rw [Path.joinText, ← logName, happend]

theorem create_of_not_fits {name : String} (hfits : ¬ FileTree.Fits directory (logName name)) :
    File.create t cwd directory name = .error .nameTooLong := by
  have happend := FileTree.append_join_of_not_fits (h.passes_of_stores hs) (isEntry_logName name) hfits []
  simp only [File.create, hmake]
  rw [Path.joinText, ← logName, happend]

theorem record_of_fits {channel : String × List String} (hfits : FileTree.Fits directory (logName channel.1)) :
    ∃ after, record t cwd directory channel = (after, outcome directory channel.1) ∧
      Stores made (FileTree.location cwd directory) after (logs.add directory channel) := by
  obtain ⟨opened, hcreate, hopened⟩ := h.create_of_fits hmake hs hfits
  have hlines := h.foldl_append_stores (f := ⟨channel.1, Path.join directory (logName channel.1)⟩) rfl
    (isEntry_logName channel.1) hfits hopened channel.2
  rw [Logs.add, if_pos hfits]
  refine ⟨_, ?_, hlines⟩
  rw [record, hcreate, outcome, if_pos hfits]

theorem record_of_not_fits {channel : String × List String} (hfits : ¬ FileTree.Fits directory (logName channel.1)) :
    record t cwd directory channel = (t, outcome directory channel.1) := by
  rw [record, h.create_of_not_fits hmake hs hfits, outcome, if_neg hfits]

/-- The invariant of the run is that making the directory once more gives a tree with the files recorded so far. It
holds of the tree before the directory is made too, and while no channel can be opened the run stays there. -/
theorem recordAll_stores (channels : List (String × List String)) :
    ∃ after, recordAll t cwd directory channels = (after, channels.map fun c => outcome directory c.1) ∧
      (Stores made (FileTree.location cwd directory) after (channels.foldl (Logs.add directory) logs) ∨
        after = t ∧ channels.foldl (Logs.add directory) logs = logs) := by
  induction channels generalizing t t' logs with
  | nil => exact ⟨t, rfl, .inr ⟨rfl, rfl⟩⟩
  | cons c channels ih =>
    by_cases hfits : FileTree.Fits directory (logName c.1)
    · obtain ⟨next, hrecord, hnext⟩ := h.record_of_fits hmake hs hfits
      obtain ⟨after, hrest, hafter⟩ := ih (h.createDirectories_eq hnext) hnext
      refine ⟨after, ?_, .inl ?_⟩
      · simp only [recordAll, hrecord, hrest, List.map_cons]
      · rcases hafter with hafter | ⟨rfl, hsame⟩
        · exact hafter
        · rwa [List.foldl_cons, hsame]
    · obtain ⟨after, hrest, hafter⟩ := ih hmake hs
      refine ⟨after, ?_, ?_⟩
      · simp only [recordAll, h.record_of_not_fits hmake hs hfits, hrest, List.map_cons]
      · rwa [List.foldl_cons, Logs.add, if_neg hfits]

end Record

end Prepared

/-- A tree in which the files of a directory are those of a map, and there is nothing else in it. -/
structure Lists (here : Location) (t : FileTree) (logs : Logs) : Prop where
  sound : t.Sound
  inside : ∀ q, t.node? (here ++ [q]) = (logs q).map (.file · false)
  bare : ∀ content executable, t.node? here ≠ some (.file content executable)

namespace Lists
variable {here : Location} {t : FileTree} {logs : Logs} (h : Lists here t logs)
include h

theorem exists_of_file {rest : Location} {content : Bytes} {executable : Bool}
    (hfile : t.node? (here ++ rest) = some (.file content executable)) : ∃ q, rest = [q] ∧ logs q = some content := by
  rcases rest with - | ⟨q, - | ⟨r, rest⟩⟩
  · rw [List.append_nil] at hfile
    exact absurd hfile (h.bare content executable)
  · rw [h.inside q] at hfile
    obtain ⟨c, hc, hnode⟩ := Option.map_eq_some_iff.mp hfile
    cases hnode
    exact ⟨q, rfl, hc⟩
  · rw [← List.singleton_append, ← List.append_assoc] at hfile
    have hdirectory := h.sound.node?_of_below (List.cons_ne_nil r rest) hfile
    rw [h.inside q] at hdirectory
    obtain ⟨c, -, hnode⟩ := Option.map_eq_some_iff.mp hdirectory
    cases hnode

theorem mem_filesBelow_iff {name content : Bytes} :
    (name, content) ∈ t.filesBelow here ↔ logs name = some content := by
  have hname : ∀ q : Bytes, FileTree.relativeName [q] = q := by
    intro q
    simp [FileTree.relativeName]
  rw [h.sound.mem_filesBelow_iff]
  constructor
  · rintro ⟨rest, executable, hfile, rfl⟩
    obtain ⟨q, rfl, hq⟩ := h.exists_of_file hfile
    rwa [hname]
  · intro hlogs
    refine ⟨[name], false, ?_, (hname name).symm⟩
    rw [h.inside name, hlogs, Option.map_some]

theorem nodup_filesBelow : ((t.filesBelow here).map Prod.fst).Nodup := by
  apply h.sound.nodup_filesBelow
  intro rest content executable hfile
  obtain ⟨q, hq, -⟩ := h.exists_of_file hfile
  exact ⟨q, hq⟩

end Lists

section Directory
variable {t made : FileTree} {cwd : Location} {directory : Bytes} (hsound : t.Sound)
  (hcwd : t.node? cwd = some .directory) (hmade : t.createDirectories cwd directory = .ok made)
  (hempty : ∀ q, made.node? (FileTree.location cwd directory ++ [q]) = none)
include hsound hcwd hmade hempty

theorem prepared : Prepared made cwd directory := by
  obtain ⟨hshort, hsound', -, hpasses⟩ := FileTree.createDirectories_passes hsound hcwd hmade
  exact ⟨hsound', hshort, hpasses, hempty⟩

/-- Before the directory is made there is nothing in it either. -/
theorem lists_before : Lists (FileTree.location cwd directory) t fun _ => none := by
  obtain ⟨-, -, hextends, hpasses⟩ := FileTree.createDirectories_passes hsound hcwd hmade
  refine ⟨hsound, fun q => ?_, fun content executable hfile => ?_⟩
  · cases hnode : t.node? (FileTree.location cwd directory ++ [q]) with
    | none => rfl
    | some n =>
      have hkept := hextends _ _ hnode
      rw [hempty q] at hkept
      cases hkept
  · have hkept := hextends _ _ hfile
    rw [FileTree.location, hpasses.node?_place] at hkept
    cases hkept

/-- A run ends with the files that the channels come to, and with nothing else changed than that the directory is
made. -/
theorem recordAll_lists (channels : List (String × List String)) :
    ∃ after, recordAll t cwd directory channels = (after, channels.map fun c => outcome directory c.1) ∧
      Lists (FileTree.location cwd directory) after (channels.foldl (Logs.add directory) fun _ => none) ∧
      ∀ l, (∀ q, l ≠ FileTree.location cwd directory ++ [q]) →
        after.node? l = t.node? l ∨ after.node? l = made.node? l := by
  have hprepared := prepared hsound hcwd hmade hempty
  obtain ⟨after, hrun, hafter | ⟨rfl, hlogs⟩⟩ := hprepared.recordAll_stores hmade hprepared.stores channels
  · refine ⟨after, hrun, ⟨hafter.sound, hafter.inside, fun content executable hfile => ?_⟩,
      fun l hl => .inr (hafter.outside l hl)⟩
    rw [FileTree.location, (hprepared.passes_of_stores hafter).node?_place] at hfile
    cases hfile
  · refine ⟨after, hrun, ?_, fun l _ => .inl rfl⟩
    rw [hlogs]
    exact lists_before hsound hcwd hmade hempty

end Directory

theorem channels_kept_by_slug {t made : FileTree} {cwd : Location} {directory : Bytes} (hsound : t.Sound)
    (hcwd : t.node? cwd = some .directory) (hmade : t.createDirectories cwd directory = .ok made)
    (hempty : ∀ q, made.node? (FileTree.location cwd directory ++ [q]) = none)
    (channels : List (String × List String)) :
    (∃ after, recordAll t cwd directory channels = (after, channels.map fun c => outcome directory c.1) ∧
      ((after.filesBelow (FileTree.location cwd directory)).map Prod.fst).Nodup ∧
      (∀ name content, (name, content) ∈ after.filesBelow (FileTree.location cwd directory) ↔
        ∃ c ∈ channels, FileTree.Fits directory (logName c.1) ∧ name = Bytes.ofString (slug c.1 ++ ".log") ∧
          content = recorded channels (slug c.1)) ∧
      ∀ l, (∀ q, l ≠ FileTree.location cwd directory ++ [q]) →
        after.node? l = t.node? l ∨ after.node? l = made.node? l) ∧
    ∀ name : String,
      slug name ≠ "" ∧ (∀ c ∈ (slug name).toList, IsSlugChar c) ∧ (name ≠ "" → (slug name).length = name.length) ∧
      slug (slug name) = slug name ∧ (logName name).length = (slug name).length + 4 := by
  obtain ⟨after, hrun, hlists, houtside⟩ := recordAll_lists hsound hcwd hmade hempty channels
  refine ⟨⟨after, hrun, hlists.nodup_filesBelow, fun name content => ?_, houtside⟩, fun name => ?_⟩
  · exact hlists.mem_filesBelow_iff.trans Logs.foldl_add_eq_some_iff
  · refine ⟨?_, fun c => isSlugChar_of_mem_slug, length_slug, slug_slug name, length_logName name⟩
    intro hblank
    exact toList_slug_ne_nil name (String.toList_eq_nil_iff.mpr hblank)

/-- Two of three channels share a file, in a directory that is still to be made. -/
theorem channels_kept_by_slug_shared :
    FileTree.empty.createDirectories [] [0x2F, 0x64, 0x2F, 0x65] =
        .ok ⟨[([[0x64]], .directory), ([[0x64], [0x65]], .directory)]⟩ ∧
      (Bytes.ofString "asp-x.log", Bytes.ofString "1\n2\n\n") ∈
        (recordAll FileTree.empty [] [0x2F, 0x64, 0x2F, 0x65]
          [("ASP x", ["1"]), ("../y", ["3"]), ("asp-x", ["2", ""])]).1.filesBelow [[0x64], [0x65]] := by
  have hmade : FileTree.empty.createDirectories [] [0x2F, 0x64, 0x2F, 0x65] =
      .ok ⟨[([[0x64]], .directory), ([[0x64], [0x65]], .directory)]⟩ := rfl
  obtain ⟨⟨after, hrun, -, hfiles, -⟩, -⟩ := channels_kept_by_slug FileTree.sound_empty rfl hmade (fun q => rfl)
    [("ASP x", ["1"]), ("../y", ["3"]), ("asp-x", ["2", ""])]
  refine ⟨hmade, ?_⟩
  rw [hrun]
  exact (hfiles _ _).mpr ⟨("ASP x", ["1"]), by decide, by decide, by decide, by decide⟩

/-- A directory with a path of 4091 bytes can be made, and a channel with a short name cannot be opened in it. -/
theorem short_name_refused :
    let directory : Bytes := (List.replicate 2045 [0x2E, Path.separator]).flatten ++ [0x64]
    FileTree.empty.createDirectories [] directory = .ok ⟨[([[0x64]], .directory)]⟩ ∧
      FileTree.location [] directory = [[0x64]] ∧ (logName "asp-lsp trace").length ≤ 255 ∧
      File.create FileTree.empty [] directory "asp-lsp trace" = .error .nameTooLong := by
  intro directory
  have hdots : ∀ n, (List.replicate n [0x2E, Path.separator]).flatten.length = n * 2 := by
    intro n
    simp
  have hlength : directory.length = 4091 := by
    rw [List.length_append, hdots]
    rfl
  have hrelative : Path.isAbsolute directory = false := rfl
  have hsteps : FileTree.steps directory = [[0x64]] := Path.components_dots 2045 [0x64]
  have hlocation : FileTree.location [] directory = [[0x64]] := by
    rw [FileTree.location, hsteps, FileTree.origin, hrelative]
    rfl
  have hmade : FileTree.empty.createDirectories [] directory = .ok ⟨[([[0x64]], .directory)]⟩ := by
    rw [FileTree.createDirectories, hlength, hsteps, hrelative]
    rfl
  have hempty : ∀ q, FileTree.node? ⟨[([[0x64]], .directory)]⟩ (FileTree.location [] directory ++ [q]) = none := by
    rw [hlocation]
    exact fun q => rfl
  have hname : (logName "asp-lsp trace").length = 17 := by decide
  have hlong : ¬ FileTree.Fits directory (logName "asp-lsp trace") := by
    intro hfits
    have hpath := hfits.2
    have hjoin := Path.length_le_length_join (isEntry_logName "asp-lsp trace").isAbsolute_eq directory
    have hmax : FileTree.maxPathBytes = 4095 := rfl
    omega
  have hprepared := prepared FileTree.sound_empty rfl hmade hempty
  exact ⟨hmade, hlocation, by omega, hprepared.create_of_not_fits hmade hprepared.stores hlong⟩

end LspClient.Trace
