/-
ChatModeration.Proofs.AlertLines — which lines of an alert are shown.

An alert says who wrote where, what was triggered and what was found, then what
was carried out, and last what the message was.  Its lines are written out here
as they stand in the body: `openingLines`, `actionsLine`, `contentPart`.  None of
them is empty when something was triggered, so none is left out (`body_eq`).

A long body is cut from its end.  So a line is shown in full if there is room for
all that stands up to its end (`Shows`), however long the message below it is.
-/
import ChatModeration.Proofs.AsciiHosts
import ChatModeration.Proofs.CutBodies

namespace ChatModeration

namespace Alert

/-! ## § What is kept -/

/-- A text that shows a front and, from the next line on, the rest: in full if there is room for
both.  Otherwise a beginning of them is shown, with a mark after it; the front belongs to it if there
is room for the front, and the line break after it if there is room for one unit more. -/
structure Shows (text front rest : Text) : Prop where
  whole : (front ++ 0x0A :: rest).length ≤ 4000 → text = front ++ 0x0A :: rest
  cut : 4000 < (front ++ 0x0A :: rest).length →
    ∃ kept, text = kept ++ Text.ofString " [...]" ∧ kept <+: front ++ 0x0A :: rest ∧
      (kept.length = 4000 ∨ kept.length = 3999)
  kept : front.length ≤ 4000 → front <+: text
  line : front.length < 4000 → front ++ [0x0A] <+: text

variable {front rest : Text}

/-- A beginning for which there is room is kept, unless it ends with half a pair. -/
theorem prefix_truncate (hroom : front.length ≤ maxLength)
    (hlast : ∀ u, front.getLast? = some u → CodeUnit.isHighSurrogate u = false) :
    front <+: truncate (front ++ rest) := by
  by_cases hle : (front ++ rest).length ≤ maxLength
  · rw [truncate_of_le hle]
    exact List.prefix_append front rest
  have hlong : maxLength < (front ++ rest).length := Nat.lt_of_not_le hle
  have hkept {n : Nat} (hn : front.length ≤ n) : front <+: (front ++ rest).take n ++ cutMark :=
    (List.prefix_take_iff.mpr ⟨List.prefix_append front rest, hn⟩).trans (List.prefix_append _ _)
  by_cases hcut : CutsPair (front ++ rest)
  · -- the half pair at the end of the room is not the last unit of the front
    obtain ⟨i, u, hi, hu, hhigh⟩ := hcut
    have hshorter : front.length ≠ maxLength := by
      intro hfull
      rw [List.getElem?_append_left (by omega)] at hu
      have hend : front.getLast? = some u := by
        rw [List.getLast?_eq_getElem?, show front.length - 1 = i by omega, hu]
      simp [hlast u hend] at hhigh
    rw [truncate_of_cutsPair hlong ⟨i, u, hi, hu, hhigh⟩]
    exact hkept (by omega)
  · rw [truncate_of_whole hlong hcut]
    exact hkept hroom

theorem shows_truncate
    (hlast : ∀ u, front.getLast? = some u → CodeUnit.isHighSurrogate u = false) (rest : Text) :
    Shows (truncate (front ++ 0x0A :: rest)) front rest where
  whole h := truncate_of_le h
  cut h := by
    obtain ⟨kept, hkept⟩ := exists_keeps h
    have hlength : kept.length = 4000 ∨ kept.length + 1 = 4000 := hkept.length
    exact ⟨kept, hkept.truncate_eq, hkept.is_front, by omega⟩
  kept h := prefix_truncate h hlast
  line h := by
    have hbreak : front ++ 0x0A :: rest = (front ++ [0x0A]) ++ rest := by simp
    rw [hbreak]
    refine prefix_truncate ?_ fun u hu => ?_
    · rw [List.length_append]
      exact h
    · rw [List.getLast?_concat] at hu
      exact Option.some.inj hu ▸ by decide

/-! ## § The lines -/

/-- Who wrote where, which filters were triggered, and what they found. -/
def openingLines (m : Incoming) (triggered : List TriggeredList) (found : List Value) : List Text :=
  [Text.ofString "**Triggered by:** " ++ showUser m.author,
    match m.channel.guildId with
    | some _ => Text.ofString "**Triggered in:** " ++ showChannel m.channel
    | none => Text.ofString "**DM**",
    showLists triggered,
    Text.ofString "**Matches:** " ++
      Text.join (Text.ofString ", ") (found.map Value.Display.ofValue)]

/-- The words for what was carried out, or a dash when there are none. -/
def actionsLine (words : List Text) : Text :=
  Text.ofString "**Actions Taken:** " ++
    (if words = [] then Text.ofString "-" else Text.join (Text.ofString ", ") words)

/-- What the message was, with a link to it if there is one; the text may have lines of its own. -/
def contentPart (m : Incoming) : Text :=
  (match m.message with
    | some place => Text.ofString "**[Original Content](" ++ place.jumpUrl ++ Text.ofString ")**"
    | none => Text.ofString "**Original Content**") ++
  Text.ofString ": " ++ Markdown.escape m.content

/-- The text of an alert, which is in its first block. -/
def text? (alert : Alert) : Option Text := alert.embeds.head?.map (·.description)

variable {ctx : Context} {triggered : List TriggeredList}

theorem label_append (title written : String) (h : label title ++ [0x20] = Text.ofString written)
    (t : Text) : label title ++ 0x20 :: t = Text.ofString written ++ t := by
  rw [← h, List.append_assoc]
  rfl

theorem lines_eq (ctx : Context) (triggered : List TriggeredList) :
    lines ctx triggered = openingLines ctx.toIncoming triggered ctx.matchRecords ++
      [actionsLine ctx.actionDescriptions, contentPart ctx.toIncoming] := by
  have hby := label_append "Triggered by:" "**Triggered by:** " (by decide)
  have hin := label_append "Triggered in:" "**Triggered in:** " (by decide)
  have hmatches := label_append "Matches:" "**Matches:** " (by decide)
  have hactions := label_append "Actions Taken:" "**Actions Taken:** " (by decide)
  have hdirect : label "DM" = Text.ofString "**DM**" := by decide
  have hsource : label "Original Content" = Text.ofString "**Original Content**" := by decide
  have hlink (url : Text) :
      Markdown.bold (Markdown.link (Text.ofString "Original Content") url) =
        Text.ofString "**[Original Content](" ++ url ++ Text.ofString ")**" := by
    have hopen : Text.ofString "**" ++ (Text.ofString "[" ++ Text.ofString "Original Content" ++
        Text.ofString "](") = Text.ofString "**[Original Content](" := by decide
    have hclose : Text.ofString ")" ++ Text.ofString "**" = Text.ofString ")**" := by decide
    rw [Markdown.bold, Markdown.link, ← hopen, ← hclose]
    simp only [List.append_assoc]
  cases hguild : ctx.channel.guildId <;> cases hmessage : ctx.message <;>
    simp only [lines, openingLines, actionsLine, contentPart, hguild, hmessage, hby, hin, hmatches,
      hactions, hdirect, hsource, hlink, List.isEmpty_iff, List.cons_append, List.nil_append]

theorem showLists_ne_nil (h : triggered ≠ []) : showLists triggered ≠ [] := by
  have hshown (list : TriggeredList) : showList list ≠ [] := by simp [showList]
  fun_cases showLists triggered with
  | case1 name f => simp [hshown]
  | case2 lists =>
    obtain ⟨list, more, rfl⟩ := List.exists_cons_of_ne_nil h
    intro hnil
    cases more <;> simp [Text.join, hshown] at hnil

/-- No line is left out when something was triggered. -/
theorem body_eq (ctx : Context) (h : triggered ≠ []) :
    body ctx triggered = truncate
      (Text.join [0x0A] (openingLines ctx.toIncoming triggered ctx.matchRecords ++
          [actionsLine ctx.actionDescriptions]) ++ 0x0A :: contentPart ctx.toIncoming) := by
  have hfull : ∀ line ∈ lines ctx triggered, line ≠ [] := by
    have hdirect : label "DM" ≠ [] := by decide
    have hcolon : Text.ofString ": " ≠ [] := by decide
    simp only [lines, List.forall_mem_cons]
    refine ⟨by simp, ?_, showLists_ne_nil h, by simp, by simp, by simp [hcolon], nofun⟩
    split
    · simp
    · exact hdirect
  have hall : (lines ctx triggered).filter (· ≠ []) = lines ctx triggered :=
    List.filter_eq_self.mpr fun line hline => decide_eq_true (hfull line hline)
  rw [body, hall, lines_eq, List.append_cons, Text.join_append _ (by simp) (by simp)]
  simp [Text.join]

/-! ## § The line about what was carried out -/

theorem isAscii_actionsLine {words : List Text} (h : ∀ word ∈ words, Text.isAscii word = true) :
    (actionsLine words).isAscii = true := by
  have hwords : (if words = [] then Text.ofString "-"
      else Text.join (Text.ofString ", ") words).isAscii = true := by
    split
    · decide
    · exact Text.isAscii_join (by decide) h
  rw [actionsLine, Text.isAscii_append, hwords]
  decide

/-- An alert shows its lines up to the one about what was carried out, and after them the message. -/
theorem shows_compose (ctx : Context) (h : triggered ≠ [])
    (hwords : ∀ word ∈ ctx.actionDescriptions, Text.isAscii word = true) :
    ∃ text, (compose ctx triggered).text? = some text ∧
      Shows text
        (Text.join [0x0A] (openingLines ctx.toIncoming triggered ctx.matchRecords ++
          [actionsLine ctx.actionDescriptions]))
        (contentPart ctx.toIncoming) := by
  refine ⟨_, congrArg some (body_eq ctx h), shows_truncate (fun u hu => ?_) _⟩
  have hopening : openingLines ctx.toIncoming triggered ctx.matchRecords ≠ [] :=
    List.cons_ne_nil _ _
  have hnonempty : actionsLine ctx.actionDescriptions ≠ [] :=
    List.append_ne_nil_of_left_ne_nil (by decide) _
  obtain ⟨front, last, hline⟩ : ∃ front last, actionsLine ctx.actionDescriptions =
      front ++ [last] := ⟨_, _, (List.dropLast_append_getLast hnonempty).symm⟩
  have hascii := isAscii_actionsLine hwords
  rw [Text.join_append _ hopening (List.cons_ne_nil _ _), Text.join, Text.join,
    List.intercalate_singleton, hline, ← List.append_assoc, List.getLast?_concat] at hu
  rw [hline, Text.isAscii_iff] at hascii
  have hlast : u < 0x80 := hascii u (by simp [Option.some.inj hu])
  exact CodeUnit.of_ascii (P := fun u => CodeUnit.isHighSurrogate u = false) (by decide) hlast

end Alert

end ChatModeration
