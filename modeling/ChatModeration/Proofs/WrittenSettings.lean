/-
ChatModeration.Proofs.WrittenSettings — settings from any file that writes them.

A configuration can be written in many ways: the blocks of the file and the
entries of a block stand in any order, and each line in any layout (`Writes`).
What a key gives is found again as long as no name occurs twice
(`setting?_of_layout`).

The main statement is `load_written`: a configuration that can be written is
loaded from every file that writes it.
-/
import ChatModeration.Config
import ChatModeration.Proofs.KeyedTables
import ChatModeration.Proofs.WrittenNumerals
import Mathlib.Data.List.Forall2

namespace ChatModeration

namespace Config

/-! ## § Written configurations -/

/-- The lines that say a block. -/
def Block.lines (b : Block) : List Line :=
  .header b.name :: b.entries.map fun e => .entry e.1 e.2

/-- The same block with its entries in any order. -/
def Block.Reorders (b b' : Block) : Prop := b'.name = b.name ∧ b.entries.Perm b'.entries

/-- The same blocks in any order, each with its entries in any order. -/
def Reordered (bs bs' : List Block) : Prop :=
  ∃ between, List.Forall₂ Block.Reorders bs between ∧ between.Perm bs'

/-- The blocks that give a configuration, with the numeral of its colour. -/
def toBlocks (c : Config) (numeral : Text) : List Block := [
  ⟨"alerts", [("enabled", .flag c.alertsEnabled), ("webhook_url", .text c.webhookUrl)]⟩,
  ⟨"moderation", [("guild_id", .text c.guildId), ("channel_id", .text c.moderationChannelId)]⟩,
  ⟨"dm", [("colour", .text numeral)]⟩]

/-- The files that write a configuration: its blocks and their entries in any order and layout,
with the colour in decimal or hexadecimal digits. -/
inductive Writes (c : Config) : Text → Prop
  | intro {n : Nat} {numeral : Text} {bs : List Block} {layout : List Text}
      (hcolour : c.dmColour = .finite n) (hnumeral : Number.Numeral n numeral)
      (horder : Reordered (c.toBlocks numeral) bs)
      (hlayout : Layout (bs.flatMap Block.lines) layout) : Writes c (Text.join [0x0A] layout)

/-- Configurations of texts without line terminators and of a colour of 24 bits. -/
structure Writable (c : Config) : Prop where
  webhookUrl : c.webhookUrl.OneLine
  guildId : c.guildId.OneLine
  moderationChannelId : c.moderationChannelId.OneLine
  dmColour : ∃ n : Nat, n ≤ 0xFFFFFF ∧ c.dmColour = .finite n

variable {b b' : Block} {bs bs' : List Block} {layout : List Text} {c : Config} {n : Nat}
variable {numeral : Text} {value : Scalar} {block key : String}

/-! ## § Blocks of a file -/

theorem splitBlocks_append_entries (entries : List (Text × Scalar)) (lines : List Line) :
    splitBlocks ((entries.map fun e => Line.entry e.1 e.2) ++ lines) =
      (entries ++ (splitBlocks lines).1, (splitBlocks lines).2) := by
  induction entries with
  | nil => rfl
  | cons e rest ih => rw [List.map_cons, List.cons_append, splitBlocks, ih]; rfl

theorem splitBlocks_flatMap_lines (bs : List Block) :
    splitBlocks (bs.flatMap Block.lines) = ([], bs) := by
  induction bs with
  | nil => rfl
  | cons b rest ih =>
    rw [List.flatMap_cons, Block.lines, List.cons_append, splitBlocks,
      splitBlocks_append_entries, ih, List.append_nil]

/-! ## § Order -/

namespace Reordered

theorem exists_of_mem (h : Reordered bs bs') (hb : b ∈ bs) : ∃ b' ∈ bs', b.Reorders b' := by
  obtain ⟨between, hentries, horder⟩ := h
  suffices ∃ b' ∈ between, b.Reorders b' by simpa [horder.mem_iff] using this
  clear horder
  induction hentries with
  | nil => cases hb
  | cons hfirst _ ih => grind

theorem exists_of_mem' (h : Reordered bs bs') (hb : b' ∈ bs') : ∃ b ∈ bs, b.Reorders b' := by
  obtain ⟨between, hentries, horder⟩ := h
  rw [← horder.mem_iff] at hb
  clear horder
  induction hentries with
  | nil => cases hb
  | cons hfirst _ ih => grind

theorem names_perm (h : Reordered bs bs') : (bs.map (·.name)).Perm (bs'.map (·.name)) := by
  obtain ⟨between, hentries, horder⟩ := h
  have hnames : between.map (·.name) = bs.map (·.name) := by
    clear horder
    induction hentries with
    | nil => rfl
    | cons hfirst _ ih => simp [hfirst.1, ih]
  rw [← hnames]
  exact horder.map _

end Reordered

/-- No name occurs twice. -/
def Distinct (bs : List Block) : Prop :=
  (bs.map (·.name)).Nodup ∧ ∀ b ∈ bs, (b.entries.map (·.1)).Nodup

theorem Distinct.reordered (hdistinct : Distinct bs) (h : Reordered bs bs') : Distinct bs' := by
  refine ⟨h.names_perm.nodup_iff.mp hdistinct.1, fun b' hb' => ?_⟩
  obtain ⟨b, hb, hreorders⟩ := h.exists_of_mem' hb'
  exact (hreorders.2.map _).nodup_iff.mp (hdistinct.2 b hb)

/-! ## § Finding settings -/

/-- What a key gives where no name occurs twice. -/
theorem setting?_of_mem (hdistinct : Distinct bs) (hb : b ∈ bs)
    (hname : b.name = Text.ofString block) (he : (Text.ofString key, value) ∈ b.entries) :
    setting? bs block key = some value := by
  have hnames : (bs.reverse.map (·.name)).Nodup := by
    rw [List.map_reverse]
    exact List.nodup_reverse.mpr hdistinct.1
  have hkeys : (b.entries.reverse.map (·.1)).Nodup := by
    rw [List.map_reverse]
    exact List.nodup_reverse.mpr (hdistinct.2 b hb)
  rw [setting?, ← hname, find?_of_nodup hnames (List.mem_reverse.mpr hb), Option.bind_some,
    lookup_of_nodup hkeys (List.mem_reverse.mpr he)]

/-- What a key gives is found in every file that says so. -/
theorem setting?_of_layout (hdistinct : Distinct bs) (h : Reordered bs bs')
    (hlines : ∀ b ∈ bs, ∀ e ∈ b.entries, e.2.OneLine)
    (hlayout : Layout (bs'.flatMap Block.lines) layout) (hb : b ∈ bs)
    (hname : b.name = Text.ofString block) (he : (Text.ofString key, value) ∈ b.entries) :
    setting? (blocks (readLines (Text.join [0x0A] layout))) block key = some value := by
  have hone : ∀ line ∈ bs'.flatMap Block.lines, line.OneLine := by
    intro line hline
    obtain ⟨b', hb', hline⟩ := List.mem_flatMap.mp hline
    obtain ⟨b, hb, -, hperm⟩ := h.exists_of_mem' hb'
    rcases List.mem_cons.mp hline with rfl | hline
    · trivial
    · obtain ⟨e, he, rfl⟩ := List.mem_map.mp hline
      exact hlines b hb e (hperm.mem_iff.mpr he)
  rw [readLines_layout hlayout hone, blocks, splitBlocks_flatMap_lines]
  obtain ⟨b', hb', hsame, hperm⟩ := h.exists_of_mem hb
  exact setting?_of_mem (hdistinct.reordered h) hb' (hsame.trans hname) (hperm.mem_iff.mp he)

/-! ## § The numeral of a colour -/

theorem isColour_finite (hn : n ≤ 0xFFFFFF) : isColour (.finite n) = true := by
  have hint : Number.toInt? (.finite n) = some (n : Int) := by
    simpa using Number.toInt?_intCast (n : Int)
  simpa [isColour, hint] using hn

theorem colourOr_numeral (h : Number.Numeral n numeral) (hn : n ≤ 0xFFFFFF) (fallback : Number) :
    colourOr fallback (some (.text numeral)) = .finite n := by
  have hread : Number.ofText numeral = .finite n := Number.ofText_numeral h (by omega)
  obtain ⟨u, rest, rfl, -⟩ := h.exists_cons
  simp [colourOr, hread, isColour_finite hn]

/-- A numeral needs no quotes. -/
theorem Scalar.writes_numeral (h : Number.Numeral n numeral) :
    Scalar.Writes (.text numeral) numeral := by
  obtain ⟨u, rest, hcons, hdigit⟩ := h.exists_cons
  have hne {v : CodeUnit} (hv : CodeUnit.isDigit v = false) : u ≠ v :=
    Number.ne_of_isDigit hdigit hv
  refine .bare h.solid ?_ fun value heq => ?_
  · rw [hcons]
    rintro _ ⟨⟩
    exact ⟨hne rfl, hne rfl⟩
  · have hhead : some u = (flagName value).head? := by rw [← heq, hcons, List.head?_cons]
    cases value <;> exact hne rfl (Option.some.inj hhead)

/-! ## § Configurations -/

theorem distinct_toBlocks (c : Config) (numeral : Text) : Distinct (c.toBlocks numeral) := by
  have hkeys : ∀ keys ∈ (c.toBlocks numeral).map fun b => b.entries.map (·.1), keys.Nodup := by
    change ∀ keys ∈ ([["enabled", "webhook_url"], ["guild_id", "channel_id"], ["colour"]] :
      List (List Text)), keys.Nodup
    decide
  refine ⟨?_, fun b hb => hkeys _ (List.mem_map_of_mem hb)⟩
  change (["alerts", "moderation", "dm"] : List Text).Nodup
  decide

theorem Writable.oneLine (hc : c.Writable) (hnumeral : Number.Numeral n numeral) :
    ∀ b ∈ c.toBlocks numeral, ∀ e ∈ b.entries, e.2.OneLine := by
  have hcolour : numeral.OneLine := fun u hu => (hnumeral.not_blank u hu).2
  simp only [toBlocks, List.forall_mem_cons]
  exact ⟨⟨trivial, hc.webhookUrl, List.forall_mem_nil _⟩,
    ⟨hc.guildId, hc.moderationChannelId, List.forall_mem_nil _⟩, ⟨hcolour, List.forall_mem_nil _⟩,
    List.forall_mem_nil _⟩

/-- Every scalar can be written. -/
theorem Scalar.exists_writes (value : Scalar) : ∃ written, value.Writes written := by
  cases value with
  | flag value => exact ⟨_, .flag value⟩
  | text t => exact ⟨_, .quoted (.inl rfl) t⟩

/-- The name of a block or the key of an entry. -/
def Line.name : Line → Text
  | header name => name
  | entry key _ => key

theorem Line.exists_writes {line : Line} (h : IsName line.name) :
    ∃ written, line.Writes written := by
  cases line with
  | header name => exact ⟨_, .header h (List.forall_mem_nil _)⟩
  | entry key value =>
    obtain ⟨written, hvalue⟩ := value.exists_writes
    have hindent : IsIndent [0x20] := by decide
    exact ⟨_, .entry hindent h (List.forall_mem_nil _) hvalue (List.forall_mem_nil _)⟩

/-- Lines that have names can be written one below the other. -/
theorem Layout.exists_of_isName {lines : List Line} (h : ∀ line ∈ lines, IsName line.name) :
    ∃ layout, Layout lines layout := by
  induction lines with
  | nil => exact ⟨[], .nil⟩
  | cons line rest ih =>
    obtain ⟨hline, hrest⟩ := List.forall_mem_cons.mp h
    obtain ⟨written, hwritten⟩ := Line.exists_writes hline
    obtain ⟨layout, hlayout⟩ := ih hrest
    exact ⟨written :: layout, .line hwritten hlayout⟩

/-- Every configuration that can be written is written by some file. -/
theorem Writable.exists_writes (hc : c.Writable) : ∃ file, c.Writes file := by
  obtain ⟨n, -, hcolour⟩ := hc.dmColour
  obtain ⟨numeral, hdigits⟩ := Number.exists_digits n
  have hsame : Reordered (c.toBlocks numeral) (c.toBlocks numeral) :=
    ⟨_, List.forall₂_same.mpr fun b _ => ⟨rfl, List.Perm.refl _⟩, List.Perm.refl _⟩
  have hnames : ∀ name ∈ ((c.toBlocks numeral).flatMap Block.lines).map Line.name,
      IsName name := by
    change ∀ name ∈ (["alerts", "enabled", "webhook_url", "moderation", "guild_id", "channel_id",
      "dm", "colour"] : List Text), IsName name
    decide
  obtain ⟨layout, hlayout⟩ :=
    Layout.exists_of_isName fun line hline => hnames _ (List.mem_map_of_mem hline)
  exact ⟨_, .intro hcolour (.decimal hdigits) hsame hlayout⟩

/-- **Configurations are loaded as they are written.**  Some file writes the configuration, and
from every file that does exactly this configuration is loaded. -/
theorem load_written (hc : c.Writable) :
    (∃ file, c.Writes file) ∧ ∀ file, c.Writes file → load (some file) = c := by
  refine ⟨hc.exists_writes, fun file hfile => ?_⟩
  obtain ⟨hcolour, hnumeral, horder, hlayout⟩ := hfile
  obtain ⟨m, hm, hcolour'⟩ := hc.dmColour
  have hsame := Number.finite.inj (hcolour.symm.trans hcolour')
  obtain rfl := Nat.cast_injective hsame
  -- each key gives what the configuration has
  have hsetting {b : Block} {block key : String} {value : Scalar} (hb : b ∈ c.toBlocks _)
      (hname : b.name = Text.ofString block) (he : (Text.ofString key, value) ∈ b.entries) :=
    setting?_of_layout (distinct_toBlocks c _) horder (hc.oneLine hnumeral) hlayout hb hname he
  have henabled := @hsetting _ "alerts" "enabled" _ (.head _) rfl (.head _)
  have hwebhook := @hsetting _ "alerts" "webhook_url" _ (.head _) rfl (.tail _ (.head _))
  have hguild := @hsetting _ "moderation" "guild_id" _ (.tail _ (.head _)) rfl (.head _)
  have hchannel := @hsetting _ "moderation" "channel_id" _ (.tail _ (.head _)) rfl
    (.tail _ (.head _))
  have hdm := @hsetting _ "dm" "colour" _ (.tail _ (.tail _ (.head _))) rfl (.head _)
  change ofBlocks (blocks (readLines _)) = c
  rw [ofBlocks, henabled, hwebhook, hguild, hchannel, hdm, colourOr_numeral hnumeral hm, ← hcolour]
  rfl

/-- A configuration whose texts hold what the reader looks for. -/
def quotedConfig : Config where
  alertsEnabled := false
  webhookUrl := "https://a.example/'b': #"
  guildId := " \"x\" "
  moderationChannelId := []
  dmColour := 0xFF

/-- Its blocks in another order. -/
def shuffledBlocks : List Block := [
  ⟨"dm", [("colour", .text "0x0fF")]⟩,
  ⟨"moderation", [("channel_id", .text []), ("guild_id", .text quotedConfig.guildId)]⟩,
  ⟨"alerts", [("enabled", .flag false), ("webhook_url", .text quotedConfig.webhookUrl)]⟩]

/-- Lines of both kinds of line ends that say them, with fillers. -/
def shuffledLayout : List Text := [
  "# settings\r",
  "dm:\r",
  "\tcolour: 0x0fF \r",
  " \r",
  "moderation:",
  "  channel_id: ''",
  "  # guild_id: none",
  "  guild_id: \" \"x\" \"\r",
  "alerts: ",
  "  enabled:false",
  "  webhook_url: 'https://a.example/'b': #'",
  ""]

theorem numeral_shuffled : Number.Numeral 0xFF "0x0fF" := by
  have hzero : Number.Digits 16 0 "0" := .one (by decide) (by decide)
  have hfifteen : Number.Digits 16 0xF "0f" :=
    @Number.Digits.more 16 0 15 "0" 0x66 hzero (by decide) (by decide)
  exact .hexadecimal (@Number.Digits.more 16 0xF 15 "0f" 0x46 hfifteen (by decide) (by decide))

theorem layout_shuffled : Layout (shuffledBlocks.flatMap Block.lines) shuffledLayout := by
  refine .filler (@Filler.comment [] " settings\r" (by decide) (by decide)) ?_
  refine .line (@Line.Writes.header "dm" "\r" (by decide) (by decide)) ?_
  refine .line (@Line.Writes.entry "\t" "colour" " " "0x0fF" " \r" _ (by decide) (by decide)
    (by decide) (Scalar.writes_numeral numeral_shuffled) (by decide)) ?_
  refine .filler (@Filler.blank " \r" (by decide)) ?_
  refine .line (@Line.Writes.header "moderation" [] (by decide) (by decide)) ?_
  refine .line (@Line.Writes.entry "  " "channel_id" " " "''" [] _ (by decide) (by decide)
    (by decide) (.quoted (.inr rfl) []) (by decide)) ?_
  refine .filler (@Filler.comment "  " " guild_id: none" (by decide) (by decide)) ?_
  refine .line (@Line.Writes.entry "  " "guild_id" " " "\" \"x\" \"" "\r" _ (by decide)
    (by decide) (by decide) (.quoted (.inl rfl) quotedConfig.guildId) (by decide)) ?_
  refine .line (@Line.Writes.header "alerts" " " (by decide) (by decide)) ?_
  refine .line (@Line.Writes.entry "  " "enabled" [] "false" [] _ (by decide) (by decide)
    (by decide) (.flag false) (by decide)) ?_
  refine .line (@Line.Writes.entry "  " "webhook_url" " " "'https://a.example/'b': #'" [] _
    (by decide) (by decide) (by decide) (.quoted (.inr rfl) quotedConfig.webhookUrl)
    (by decide)) ?_
  exact .filler (.blank (by decide)) .nil

theorem load_written_shuffled : quotedConfig.Writable ∧
    quotedConfig.Writes (Text.join [0x0A] shuffledLayout) ∧
    load (some (Text.join [0x0A] shuffledLayout)) = quotedConfig := by
  have hwritable : quotedConfig.Writable :=
    ⟨by decide, by decide, by decide, 0xFF, by decide, rfl⟩
  have horder : Reordered (quotedConfig.toBlocks "0x0fF") shuffledBlocks := by
    refine ⟨[⟨"alerts", [("enabled", .flag false), ("webhook_url", .text quotedConfig.webhookUrl)]⟩,
      ⟨"moderation", [("channel_id", .text []), ("guild_id", .text quotedConfig.guildId)]⟩,
      ⟨"dm", [("colour", .text "0x0fF")]⟩], ?_, by decide⟩
    exact .cons ⟨rfl, by decide⟩ (.cons ⟨rfl, by decide⟩ (.cons ⟨rfl, by decide⟩ .nil))
  have hwrites : quotedConfig.Writes (Text.join [0x0A] shuffledLayout) :=
    .intro rfl numeral_shuffled horder layout_shuffled
  exact ⟨hwritable, hwrites, (load_written hwritable).2 _ hwrites⟩

end Config

end ChatModeration
