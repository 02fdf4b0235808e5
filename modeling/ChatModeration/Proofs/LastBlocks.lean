/-
ChatModeration.Proofs.LastBlocks — what decides a setting in an arbitrary file.

Every text is a settings file, also one that nobody would write: headers that
come again, keys before the first header, keys of other blocks, stray colons,
single quotes.  `LastBlock` and `LastEntry` say of the written lines which of
them count, and `Setting` what these give for a key of a block.

The main statement is `load_decided`: each setting is what its own last block
gives, or else its default.
-/
import ChatModeration.Config
import ChatModeration.Proofs.KeyedTables
import ChatModeration.Proofs.WrittenLines

namespace ChatModeration

namespace Config

open Line (isComment isIndented read?)

/-! ## § The lines that count -/

/-- A line that heads a block of a name: it is neither a comment nor indented, and the name stands
before its first colon. -/
def Heads (name line : Text) : Prop :=
  isComment line = false ∧ isIndented line = false ∧
    ∃ before after, Cut line before after ∧ before.trim = name

def IsHeader (line : Text) : Prop := ∃ name, Heads name line

/-- A line that gives a text for a key: it is indented and no comment, the key stands before its
first colon, and the text after it. -/
def Gives (key raw line : Text) : Prop :=
  isComment line = false ∧ isIndented line = true ∧
    ∃ before after, Cut line before after ∧ before.trim = key ∧ after.trim = raw

/-- The lines between the last header of a name and the next header. -/
inductive LastBlock (name : Text) : List Text → List Text → Prop
  | intro {before block after : List Text} {header : Text} (hheader : Heads name header)
      (hblock : ∀ line ∈ block, ¬ IsHeader line) (hnext : ∀ line ∈ after.head?, IsHeader line)
      (hlast : ∀ line ∈ after, ¬ Heads name line) :
      LastBlock name (before ++ header :: (block ++ after)) block

/-- The text that the last line for a key gives. -/
inductive LastEntry (key raw : Text) : List Text → Prop
  | intro {before after : List Text} {line : Text} (hline : Gives key raw line)
      (hlast : ∀ line ∈ after, ∀ raw, ¬ Gives key raw line) :
      LastEntry key raw (before ++ line :: after)

/-- One of the two quotes. -/
def IsQuote (u : CodeUnit) : Prop := u = 0x22 ∨ u = 0x27

/-- A text within one line between two equal quotes. -/
def Encloses (quote : CodeUnit) (raw inner : Text) : Prop :=
  IsQuote quote ∧ inner.OneLine ∧ raw = quote :: (inner ++ [quote])

/-- What a text denotes: a flag by its name, a text between quotes, or else itself. -/
inductive Scalar.Denotes : Text → Scalar → Prop
  | flag (value : Bool) : Denotes (flagName value) (.flag value)
  | quoted {quote : CodeUnit} {raw inner : Text} (hquoted : Encloses quote raw inner) :
      Denotes raw (.text inner)
  | plain {raw : Text} (hflag : ∀ value, raw ≠ flagName value)
      (hquoted : ∀ quote inner, ¬ Encloses quote raw inner) : Denotes raw (.text raw)

/-- What the last block of a name gives for a key. -/
def Setting (file : Text) (block key : String) (value : Scalar) : Prop :=
  ∃ lines raw, LastBlock (Text.ofString block) (Text.splitOn (· == 0x0A) file) lines ∧
    LastEntry (Text.ofString key) raw lines ∧ Scalar.Denotes raw value

variable {line written before after name key raw : Text} {value : Scalar}

/-! ## § Scalars -/

namespace Scalar

variable {quote : CodeUnit} {inner : Text}

theorem unquote?_of_encloses (h : Encloses quote raw inner) : unquote? raw = some inner := by
  obtain ⟨hquote, hline, rfl⟩ := h
  exact unquote?_quoted hquote hline

theorem encloses_of_unquote? (h : unquote? raw = some inner) :
    ∃ quote, Encloses quote raw inner := by
  cases raw with
  | nil => cases h
  | cons quote rest =>
    simp only [unquote?, Option.ite_none_right_eq_some, Bool.and_eq_true, Bool.or_eq_true,
      beq_iff_eq, Bool.not_eq_true', List.any_eq_false, Option.some.injEq] at h
    obtain ⟨⟨⟨hquote, hlast⟩, hline⟩, rfl⟩ := h
    have hrest : rest.dropLast ++ [quote] = rest := List.dropLast_append_getLast? _ hlast
    refine ⟨quote, hquote, fun u hu => ?_, by rw [hrest]⟩
    simpa using hline u hu

/-- A scalar is read as what its text denotes. -/
theorem denotes_iff : Denotes raw value ↔ Scalar.ofText raw = value := by
  constructor
  · rintro (value | @⟨quote, _, inner, hquoted⟩ | ⟨hflag, hquoted⟩)
    · exact ofText_flagName value
    · have hflag : ∀ value, raw ≠ flagName value := by
        rw [hquoted.2.2]
        exact quoted_ne_flagName hquoted.1 inner
      rw [ofText_of_ne_flagName hflag, unquote?_of_encloses hquoted, Option.getD_some]
    · have hnone : unquote? raw = none := by
        refine Option.eq_none_iff_forall_ne_some.mpr fun inner h => ?_
        obtain ⟨quote, h⟩ := encloses_of_unquote? h
        exact hquoted quote inner h
      rw [ofText_of_ne_flagName hflag, hnone, Option.getD_none]
  · rintro rfl
    by_cases hflag : ∃ value, raw = flagName value
    · obtain ⟨value, rfl⟩ := hflag
      rw [ofText_flagName]
      exact .flag value
    · push Not at hflag
      rw [ofText_of_ne_flagName hflag]
      cases hquoted : unquote? raw with
      | some inner =>
        obtain ⟨quote, h⟩ := encloses_of_unquote? hquoted
        exact .quoted h
      | none =>
        refine .plain hflag fun quote inner h => ?_
        rw [unquote?_of_encloses h] at hquoted
        cases hquoted

end Scalar

/-! ## § Single lines -/

theorem exists_cut (h : 0x3A ∈ line) : ∃ before after, Cut line before after := by
  obtain ⟨before, after, heq, hfirst⟩ := List.eq_append_cons_of_mem h
  exact ⟨before, after, heq, hfirst⟩

theorem cutAt?_of_not_mem {mark : CodeUnit} {t : Text} (h : mark ∉ t) :
    Text.cutAt? (· == mark) t = none := by
  induction t with
  | nil => rfl
  | cons u rest ih =>
    have hu : u ≠ mark := (List.ne_of_not_mem_cons h).symm
    simp [Text.cutAt?, hu, ih (List.not_mem_of_not_mem_cons h)]

/-- A line without a colon means nothing. -/
theorem read?_of_colon_not_mem (h : 0x3A ∉ written) : read? written = none := by
  obtain ⟨blank, -, heq⟩ := Text.exists_trimEnd written
  have hnot : 0x3A ∉ written.trimEnd := by
    intro hmem
    exact h (heq ▸ List.mem_append_left blank hmem)
  simp [read?, cutAt?_of_not_mem hnot]

/-- A line that means something is no comment and has a colon. -/
theorem exists_cut_of_read? {meaning : Line} (h : read? written = some meaning) :
    isComment written = false ∧ ∃ before after, Cut written before after ∧
      (if isIndented written then .entry before.trim (Scalar.ofText after.trim)
        else .header before.trim) = meaning := by
  by_cases hcolon : 0x3A ∈ written
  · obtain ⟨before, after, hcut⟩ := exists_cut hcolon
    rw [hcut.read?_eq] at h
    split at h
    · cases h
    · next hcomment =>
      exact ⟨by simpa using hcomment, before, after, hcut, Option.some.inj h⟩
  · rw [read?_of_colon_not_mem hcolon] at h
    cases h

theorem heads_iff : Heads name written ↔ read? written = some (.header name) := by
  constructor
  · rintro ⟨hcomment, hindent, before, after, hcut, rfl⟩
    simp [hcut.read?_eq, hcomment, hindent]
  · intro h
    obtain ⟨hcomment, before, after, hcut, hmeaning⟩ := exists_cut_of_read? h
    split at hmeaning
    · cases hmeaning
    · next hindent =>
      cases hmeaning
      exact ⟨hcomment, by simpa using hindent, before, after, hcut, rfl⟩

theorem gives_iff : (∃ raw, Gives key raw written ∧ Scalar.Denotes raw value) ↔
    read? written = some (.entry key value) := by
  simp only [Scalar.denotes_iff]
  constructor
  · rintro ⟨raw, ⟨hcomment, hindent, before, after, hcut, rfl, rfl⟩, rfl⟩
    simp [hcut.read?_eq, hcomment, hindent]
  · intro h
    obtain ⟨hcomment, before, after, hcut, hmeaning⟩ := exists_cut_of_read? h
    split at hmeaning
    · next hindent =>
      cases hmeaning
      exact ⟨_, ⟨hcomment, hindent, before, after, hcut, rfl, rfl⟩, rfl⟩
    · cases hmeaning

/-! ## § Blocks of lines -/

/-- The key and the value of an entry. -/
def Line.entry? : Line → Option (Text × Scalar)
  | header _ => none
  | entry key value => some (key, value)

section Blocks

variable {lines front block rest : List Line} {s k : String}

theorem splitBlocks_append_header (front rest : List Line) (name : Text) :
    splitBlocks (front ++ .header name :: rest) =
      ((splitBlocks front).1,
        (splitBlocks front).2 ++ ⟨name, (splitBlocks rest).1⟩ :: (splitBlocks rest).2) := by
  induction front with
  | nil => rfl
  | cons line front ih =>
    cases line with
    | header other => simp only [List.cons_append, splitBlocks, ih]
    | entry key value => simp only [List.cons_append, splitBlocks, ih]

theorem splitBlocks_of_entries (h : ∀ name, .header name ∉ lines) :
    splitBlocks lines = (lines.filterMap Line.entry?, []) := by
  induction lines with
  | nil => rfl
  | cons line rest ih =>
    cases line with
    | header name => exact absurd List.mem_cons_self (h name)
    | entry key value =>
      rw [splitBlocks, ih fun name hmem => h name (List.mem_cons_of_mem _ hmem)]
      rfl

/-- Every block has a header. -/
theorem header_mem_of_mem_blocks {b : Block} (hb : b ∈ blocks lines) :
    .header b.name ∈ lines := by
  induction lines with
  | nil => cases hb
  | cons line rest ih =>
    cases line with
    | header name =>
      rcases List.mem_cons.mp hb with rfl | hb
      · exact List.mem_cons_self
      · exact List.mem_cons_of_mem _ (ih hb)
    | entry key value => exact List.mem_cons_of_mem _ (ih hb)

/-- The entries up to the next header. -/
theorem splitBlocks_fst_append (hblock : ∀ name, .header name ∉ block)
    (hrest : ∀ line ∈ rest.head?, ∃ name, line = .header name) :
    (splitBlocks (block ++ rest)).1 = block.filterMap Line.entry? := by
  cases rest with
  | nil => rw [List.append_nil, splitBlocks_of_entries hblock]
  | cons line rest =>
    obtain ⟨name, rfl⟩ := hrest line rfl
    rw [splitBlocks_append_header, splitBlocks_of_entries hblock]

/-- A key gives what its last entry in the last block of the name gives. -/
theorem setting?_append_header (hblock : ∀ name, .header name ∉ block)
    (hrest : ∀ line ∈ rest.head?, ∃ name, line = .header name)
    (hlast : .header (Text.ofString s) ∉ rest) :
    setting? (blocks (front ++ .header (Text.ofString s) :: (block ++ rest))) s k =
      (block.filterMap Line.entry?).reverse.lookup (Text.ofString k) := by
  have hlater : ∀ b ∈ blocks (block ++ rest), b.name ≠ Text.ofString s := by
    intro b hb hname
    rcases List.mem_append.mp (header_mem_of_mem_blocks hb) with hmem | hmem
    · exact hblock _ hmem
    · exact hlast (hname ▸ hmem)
  have hnone :
      (blocks (block ++ rest)).reverse.find? (fun b => b.name = Text.ofString s) = none := by
    simpa using hlater
  rw [setting?, blocks, splitBlocks_append_header, List.reverse_append, List.reverse_cons,
    List.append_assoc, List.find?_append, ← blocks, hnone, Option.none_or, List.singleton_append,
    List.find?_cons_of_pos (by simp), Option.bind_some, splitBlocks_fst_append hblock hrest]

theorem setting?_eq_none (h : .header (Text.ofString s) ∉ lines) :
    setting? (blocks lines) s k = none := by
  have hnone : (blocks lines).reverse.find? (fun b => b.name = Text.ofString s) = none := by
    simp only [List.find?_eq_none, List.mem_reverse, decide_eq_true_eq]
    intro b hb hname
    exact h (hname ▸ header_mem_of_mem_blocks hb)
  rw [setting?, hnone, Option.bind_none]

end Blocks

/-! ## § Files -/

/-- The entry that a written line is. -/
def writtenEntry? (line : Text) : Option (Text × Scalar) := (read? line).bind Line.entry?

variable {lines block : List Text} {file : Text} {s k : String}

/-- The lines up to the next header, and those from there on. -/
theorem exists_next_header (lines : List Text) : ∃ block after, lines = block ++ after ∧
    (∀ line ∈ block, ¬ IsHeader line) ∧ ∀ line ∈ after.head?, IsHeader line := by
  induction lines with
  | nil => exact ⟨[], [], rfl, List.forall_mem_nil _, nofun⟩
  | cons line rest ih =>
    by_cases hline : IsHeader line
    · refine ⟨[], line :: rest, rfl, List.forall_mem_nil _, ?_⟩
      rintro _ ⟨⟩
      exact hline
    · obtain ⟨block, after, rfl, hblock, hafter⟩ := ih
      exact ⟨line :: block, after, rfl, List.forall_mem_cons.mpr ⟨hline, hblock⟩, hafter⟩

theorem LastBlock.exists_of_heads (h : ∃ line ∈ lines, Heads name line) :
    ∃ block, LastBlock name lines block := by
  obtain ⟨before, header, rest, rfl, hheader, hlast⟩ := exists_last h
  obtain ⟨block, after, rfl, hblock, hnext⟩ := exists_next_header rest
  have hafter : ∀ line ∈ after, ¬ Heads name line :=
    fun line hline => hlast line (List.mem_append_right block hline)
  exact ⟨block, .intro hheader hblock hnext hafter⟩

/-- What a key gives is looked up in the last block of the name. -/
theorem LastBlock.setting?_eq (h : LastBlock (Text.ofString s) lines block) :
    setting? (blocks (lines.filterMap read?)) s k =
      (block.filterMap writtenEntry?).reverse.lookup (Text.ofString k) := by
  obtain @⟨before, block, after, header, hheader, hblock, hnext, hlast⟩ := h
  rw [List.filterMap_append, List.filterMap_cons_some (heads_iff.mp hheader),
    List.filterMap_append, setting?_append_header, List.filterMap_filterMap]
  · rfl
  · intro name hmem
    obtain ⟨line, hline, hread⟩ := List.mem_filterMap.mp hmem
    exact hblock line hline ⟨name, heads_iff.mpr hread⟩
  · cases after with
    | nil => simp
    | cons line rest =>
      obtain ⟨name, hname⟩ := hnext line rfl
      rw [List.filterMap_cons_some (heads_iff.mp hname)]
      rintro _ ⟨⟩
      exact ⟨name, rfl⟩
  · intro hmem
    obtain ⟨line, hline, hread⟩ := List.mem_filterMap.mp hmem
    exact hlast line hline (heads_iff.mpr hread)

theorem lookup_writtenEntry? :
    (block.filterMap writtenEntry?).reverse.lookup key = some value ↔
      ∃ raw, LastEntry key raw block ∧ Scalar.Denotes raw value := by
  have hentry (line : Text) (value : Scalar) : writtenEntry? line = some (key, value) ↔
      ∃ raw, Gives key raw line ∧ Scalar.Denotes raw value := by
    rw [gives_iff, writtenEntry?, Option.bind_eq_some_iff]
    constructor
    · rintro ⟨meaning, hread, hmeaning⟩
      cases meaning with
      | header name => cases hmeaning
      | entry key value =>
        cases hmeaning
        exact hread
    · exact fun hread => ⟨_, hread, rfl⟩
  simp only [lookup_reverse_filterMap, ne_eq, hentry]
  constructor
  · rintro ⟨before, line, after, rfl, ⟨raw, hline, hraw⟩, hlast⟩
    refine ⟨raw, .intro hline fun later hlater raw' hgives => ?_, hraw⟩
    exact hlast later hlater _ ⟨raw', hgives, Scalar.denotes_iff.mpr rfl⟩
  · rintro ⟨raw, ⟨hline, hlast⟩, hraw⟩
    refine ⟨_, _, _, rfl, ⟨raw, hline, hraw⟩, ?_⟩
    rintro later hlater _ ⟨raw', hgives, -⟩
    exact hlast later hlater raw' hgives

/-- A key of a block is read as what the last block of the name gives for it. -/
theorem setting?_iff :
    setting? (blocks (readLines file)) s k = some value ↔ Setting file s k value := by
  constructor
  · intro h
    by_cases hheads : ∃ line ∈ Text.splitOn (· == 0x0A) file, Heads (Text.ofString s) line
    · obtain ⟨block, hblock⟩ := LastBlock.exists_of_heads hheads
      rw [readLines, hblock.setting?_eq, lookup_writtenEntry?] at h
      obtain ⟨raw, hentry, hraw⟩ := h
      exact ⟨block, raw, hblock, hentry, hraw⟩
    · rw [setting?_eq_none] at h
      · cases h
      · intro hmem
        obtain ⟨line, hline, hread⟩ := List.mem_filterMap.mp hmem
        exact hheads ⟨line, hline, heads_iff.mpr hread⟩
  · rintro ⟨block, raw, hblock, hentry, hraw⟩
    rw [readLines, hblock.setting?_eq, lookup_writtenEntry?]
    exact ⟨raw, hentry, hraw⟩

/-! ## § Kinds of settings -/

/-- A setting that is on or off. -/
def IsFlag (value : Scalar) (on : Bool) : Prop := value = .flag on

/-- A setting that is a text. -/
def IsText (value : Scalar) (t : Text) : Prop := value = .text t

/-- A setting that is the number of a colour: a text that is not empty and is read as an integer of
24 bits. -/
def IsColour (value : Scalar) (n : Number) : Prop :=
  ∃ t k, value = .text t ∧ t ≠ [] ∧ Number.ofText t = n ∧ n.toInt? = some k ∧ 0 ≤ k ∧ k ≤ 0xFFFFFF

section Kinds

variable {α : Type} {kind : Scalar → α → Prop} {fallback x : α} {reader : Option Scalar → α}

/-- A setting is what the file gives for a key of a block, if that is of the right kind, and
otherwise its default. -/
def Decides (file : Text) (block key : String) (kind : Scalar → α → Prop) (fallback x : α) : Prop :=
  (∃ value, Setting file block key value ∧ kind value x) ∨
    ((∀ value y, Setting file block key value → ¬ kind value y) ∧ x = fallback)

/-- A reader for settings of one kind. -/
structure ReadsKind (reader : Option Scalar → α) (kind : Scalar → α → Prop) (fallback : α) :
    Prop where
  missing : reader none = fallback
  right : ∀ {value x}, kind value x → reader (some value) = x
  wrong : ∀ {value}, (∀ x, ¬ kind value x) → reader (some value) = fallback

theorem ReadsKind.decides_iff (h : ReadsKind reader kind fallback) :
    reader (setting? (blocks (readLines file)) s k) = x ↔ Decides file s k kind fallback x := by
  have hsetting (value : Scalar) :
      Setting file s k value ↔ setting? (blocks (readLines file)) s k = some value :=
    setting?_iff.symm
  simp only [Decides, hsetting]
  cases setting? (blocks (readLines file)) s k with
  | none => simp [h.missing, eq_comm]
  | some value =>
    by_cases hkind : ∃ y, kind value y
    · obtain ⟨y, hy⟩ := hkind
      rw [h.right hy]
      constructor
      · rintro rfl
        exact .inl ⟨value, rfl, hy⟩
      · rintro (⟨_, ⟨⟩, hx⟩ | ⟨hnone, -⟩)
        · rw [← h.right hy, h.right hx]
        · exact absurd hy (hnone value y rfl)
    · push Not at hkind
      rw [h.wrong hkind]
      constructor
      · rintro rfl
        refine .inr ⟨?_, rfl⟩
        rintro _ y ⟨⟩
        exact hkind y
      · rintro (⟨_, ⟨⟩, hx⟩ | ⟨-, rfl⟩)
        · exact absurd hx (hkind x)
        · rfl

theorem readsKind_flagOr (fallback : Bool) : ReadsKind (flagOr fallback) IsFlag fallback where
  missing := rfl
  right := by rintro _ x rfl; rfl
  wrong {value} h := by
    cases value with
    | flag on => exact absurd rfl (h on)
    | text t => rfl

theorem readsKind_textOr (fallback : Text) : ReadsKind (textOr fallback) IsText fallback where
  missing := rfl
  right := by rintro _ x rfl; rfl
  wrong {value} h := by
    cases value with
    | flag on => rfl
    | text t => exact absurd rfl (h t)

theorem isColour_iff {n : Number} :
    isColour n = true ↔ ∃ k : Int, n.toInt? = some k ∧ 0 ≤ k ∧ k ≤ 0xFFFFFF := by
  unfold isColour
  cases n.toInt? <;> simp

theorem readsKind_colourOr (fallback : Number) :
    ReadsKind (colourOr fallback) IsColour fallback where
  missing := rfl
  right := by
    rintro _ _ ⟨t, k, rfl, hne, rfl, hk⟩
    exact if_pos ⟨hne, isColour_iff.mpr ⟨k, hk⟩⟩
  wrong {value} h := by
    cases value with
    | flag on => rfl
    | text t =>
      refine if_neg ?_
      rintro ⟨hne, hcolour⟩
      obtain ⟨k, hk⟩ := isColour_iff.mp hcolour
      exact h _ ⟨t, k, rfl, hne, rfl, hk⟩

end Kinds

/-- **What a file decides.**  From every text whatsoever settings are loaded, and each of them is
what the last line for its key in the last block of its name gives, if this is of the right kind;
otherwise it is the default, whatever earlier blocks of the name or other blocks say. -/
theorem load_decided (file : Text) (c : Config) :
    load (some file) = c ↔
      Decides file "alerts" "enabled" IsFlag default.alertsEnabled c.alertsEnabled ∧
      Decides file "alerts" "webhook_url" IsText default.webhookUrl c.webhookUrl ∧
      Decides file "moderation" "guild_id" IsText default.guildId c.guildId ∧
      Decides file "moderation" "channel_id" IsText default.moderationChannelId
        c.moderationChannelId ∧
      Decides file "dm" "colour" IsColour default.dmColour c.dmColour := by
  obtain ⟨alertsEnabled, webhookUrl, guildId, moderationChannelId, dmColour⟩ := c
  rw [← (readsKind_flagOr _).decides_iff, ← (readsKind_textOr _).decides_iff,
    ← (readsKind_textOr _).decides_iff, ← (readsKind_textOr _).decides_iff,
    ← (readsKind_colourOr _).decides_iff]
  exact Config.mk.injEq _ _ _ _ _ _ _ _ _ _ ▸ Iff.rfl

/-- Nothing is left of a block whose header comes again. -/
example : load (some (Text.ofString "alerts:\n  enabled: false\ndm:\nalerts :\n")) = default := by
  decide

end Config

end ChatModeration
