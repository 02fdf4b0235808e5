/-
ChatModeration.Proofs.DispatchConduct — what a dispatch asks of the platform.

Whatever fails, a dispatch of a triggered event asks in one order: tell, rename,
sanction, alert.  The alert says what was carried out, and that is a function of
the record of the calls (`describedBy`), so that the two cannot disagree.

A long alert is cut, its line about the actions included.  The main statement
says which lines stand before this one, and so when it is shown
(`Alert.Shows`): the length of the message below it does not matter.
-/
import ChatModeration.Dispatch
import ChatModeration.Proofs.AlertLines
import ChatModeration.Proofs.SanctionSteps

namespace ChatModeration

/-! ## § Calls -/

/-- A call to the platform with its answer. -/
structure Call where
  request : PlatformRequest
  answer : request.Answer

/-- The call that an exchange is, if it is one. -/
def Exchange.call? : Exchange Moderation → Option Call
  | ⟨.platform r, answer⟩ => some ⟨r, answer⟩
  | _ => none

/-- Asking how to address a user has no effect on anybody. -/
def Call.isMention (c : Call) : Bool :=
  match c.request with
  | .mention _ => true
  | _ => false

/-- The calls that may have an effect, in order. -/
def calls (record : Conversation Moderation) : List Call :=
  (record.filterMap Exchange.call?).filter (!·.isMention)

/-- The word for an infraction in an alert. -/
def Infraction.spoken : Infraction → String
  | .ban => "ban"
  | .kick => "kick"
  | .mute => "mute"
  | .voiceBan => "voice_ban"
  | .warning => "warning"
  | .watch => "watch"
  | .superstar => "superstar"
  | .note => "note"
  | .none => "none"

theorem Infraction.word_eq (i : Infraction) : i.word = Text.ofString i.spoken := by
  cases i <;> decide

/-- The word for what a call has achieved. -/
def Call.word? : Call → Option Text
  | ⟨.sendDirectMessage .., .ok .sent⟩ => some (Text.ofString "notified")
  | ⟨.sendToChannel .., .ok ()⟩ => some (Text.ofString "notified")
  | ⟨.forceRename _, .ok ()⟩ => some (Text.ofString "superstarred")
  | ⟨.issueInfraction r, .ok ()⟩ => some (Text.ofString r.infraction.spoken)
  | _ => none

/-- The words for all that was achieved, in order. -/
def describedBy (record : Conversation Moderation) : List Text :=
  (calls record).filterMap Call.word?

theorem Call.isAscii_word {c : Call} {word : Text} (h : c.word? = some word) :
    word.isAscii = true := by
  unfold Call.word? at h
  split at h <;> cases h
  · decide
  · decide
  · decide
  · rename_i r
    cases r.infraction <;> decide

theorem isAscii_of_mem_describedBy {record : Conversation Moderation} {word : Text}
    (h : word ∈ describedBy record) : word.isAscii = true := by
  obtain ⟨c, -, hc⟩ := List.mem_filterMap.mp h
  exact c.isAscii_word hc

@[simp] theorem calls_append (record record' : Conversation Moderation) :
    calls (record ++ record') = calls record ++ calls record' := by
  simp [calls]

@[simp] theorem calls_logged (event : LogEvent) : calls [logged event] = [] := rfl

@[simp] theorem describedBy_append (record record' : Conversation Moderation) :
    describedBy (record ++ record') = describedBy record ++ describedBy record' := by
  simp [describedBy]

/-! ## § The order of the calls -/

/-- Telling the author: nothing, a private message, or the same message in a channel after a private
one that was forbidden. -/
inductive Told : List Call → Prop where
  | nothing : Told []
  | inPrivate (actor : Actor) (content : Text) (embed : Option RichContent)
      (answer : Except Fault Delivery) (h : answer ≠ .ok .forbidden) :
      Told [⟨.sendDirectMessage actor content embed, answer⟩]
  | inChannel (actor : Actor) (channel : Channel) (content : Text) (embed : Option RichContent)
      (answer : Except Fault Unit) :
      Told [⟨.sendDirectMessage actor content embed, .ok .forbidden⟩,
        ⟨.sendToChannel channel content embed, answer⟩]

inductive Renamed : List Call → Prop where
  | nothing : Renamed []
  | asked (request : RenameRequest) (answer : Except Fault Unit) :
      Renamed [⟨.forceRename request, answer⟩]

inductive Issued : List Call → Prop where
  | nothing : Issued []
  | asked (request : InfractionRequest) (answer : Except Fault Unit) :
      Issued [⟨.issueInfraction request, answer⟩]

/-- Alerting the moderators: exactly one call if there is a channel; the flag says whether it went
through. -/
inductive Alerted (alert : Alert) : Option AlertChannel → List Call → Bool → Prop where
  | unavailable : Alerted alert none [] false
  | sent (channel : AlertChannel) :
      Alerted alert (some channel) [⟨.sendAlert channel alert, .ok ()⟩] true
  | failed (channel : AlertChannel) (fault : Fault) :
      Alerted alert (some channel) [⟨.sendAlert channel alert, .error fault⟩] false

theorem Alerted.words {alert : Alert} {channel : Option AlertChannel} {sent : List Call}
    {alerted : Bool} (h : Alerted alert channel sent alerted) : sent.filterMap Call.word? = [] := by
  cases h <;> rfl

/-- A context that has taken down what was carried out; the event and what the alert says beside
that are the same. -/
structure Context.Follows (ctx : Context) (record : Conversation Moderation) (ctx' : Context) :
    Prop where
  incoming : ctx'.toIncoming = ctx.toIncoming
  sendAlert : ctx'.sendAlert = ctx.sendAlert
  alertContent : ctx'.alertContent = ctx.alertContent
  alertEmbeds : ctx'.alertEmbeds = ctx.alertEmbeds
  matchRecords : ctx'.matchRecords = ctx.matchRecords
  described : ctx'.actionDescriptions = ctx.actionDescriptions ++ describedBy record

theorem Context.Follows.trans {ctx ctx' ctx'' : Context} {record record' : Conversation Moderation}
    (h : ctx.Follows record ctx') (h' : ctx'.Follows record' ctx'') :
    ctx.Follows (record ++ record') ctx'' where
  incoming := h'.incoming.trans h.incoming
  sendAlert := h'.sendAlert.trans h.sendAlert
  alertContent := h'.alertContent.trans h.alertContent
  alertEmbeds := h'.alertEmbeds.trans h.alertEmbeds
  matchRecords := h'.matchRecords.trans h.matchRecords
  described := by
    rw [h'.described, h.described, describedBy_append, List.append_assoc]

/-! ## § Each rule keeps the order -/

namespace Sanction

variable {settings : ModerationSettings} {t : Sanction} {ctx ctx' : Context}
  {record : Conversation Moderation}

theorem Expires.calls_eq {duration : Option Number} {moment : Option Instant}
    (h : Expires duration record moment) : calls record = [] := by
  cases h <;> rfl

theorem Expires.describedBy_eq {duration : Option Number} {moment : Option Instant}
    (h : Expires duration record moment) : describedBy record = [] := by
  rw [describedBy, h.calls_eq]
  rfl

theorem Tells.told (h : Tells ctx record ctx') : Told (calls record) := by
  cases h with
  | unaddressed fault => exact .nothing
  | undelivered mention fault => exact .inPrivate _ _ _ (.error fault) (by simp)
  | delivered mention => exact .inPrivate _ _ _ (.ok .sent) (by simp)
  | rerouted mention => exact .inChannel _ _ _ _ (.ok ())
  | lost mention fault => exact .inChannel _ _ _ _ (.error fault)

theorem Tells.follows (h : Tells ctx record ctx') : ctx.Follows record ctx' := by
  cases h with
  | unaddressed fault => exact ⟨rfl, rfl, rfl, rfl, rfl, (List.append_nil _).symm⟩
  | undelivered mention fault => exact ⟨rfl, rfl, rfl, rfl, rfl, (List.append_nil _).symm⟩
  | delivered mention => exact ⟨rfl, rfl, rfl, rfl, rfl, rfl⟩
  | rerouted mention => exact ⟨rfl, rfl, rfl, rfl, rfl, rfl⟩
  | lost mention fault => exact ⟨rfl, rfl, rfl, rfl, rfl, (List.append_nil _).symm⟩

theorem Notifies.told (h : Notifies settings t ctx record ctx') : Told (calls record) := by
  cases h with
  | silent => exact .nothing
  | tells _ ht => exact ht.told

theorem Notifies.follows (h : Notifies settings t ctx record ctx') : ctx.Follows record ctx' := by
  cases h with
  | silent => exact ⟨rfl, rfl, rfl, rfl, rfl, (List.append_nil _).symm⟩
  | tells _ ht =>
    obtain ⟨hi, ha, hc, he, hm, hd⟩ := ht.follows
    exact ⟨hi, ha, hc, he, hm, hd⟩

theorem Renames.renamed {star : Option Superstar} (h : Renames ctx star record ctx') :
    Renamed (calls record) := by
  cases h with
  | unasked => exact .nothing
  | done star he =>
    rw [calls_append, he.calls_eq]
    exact .asked _ (.ok ())
  | failed star he fault =>
    rw [calls_append, he.calls_eq]
    exact .asked _ (.error fault)

theorem Renames.follows {star : Option Superstar} (h : Renames ctx star record ctx') :
    ctx.Follows record ctx' := by
  cases h with
  | unasked => exact ⟨rfl, rfl, rfl, rfl, rfl, (List.append_nil _).symm⟩
  | done star he =>
    refine ⟨rfl, rfl, rfl, rfl, rfl, ?_⟩
    rw [describedBy_append, he.describedBy_eq]
    rfl
  | failed star he fault =>
    refine ⟨rfl, rfl, rfl, rfl, rfl, ?_⟩
    rw [describedBy_append, he.describedBy_eq]
    exact (List.append_nil _).symm

theorem Issues.issued (h : Issues settings t ctx record ctx') : Issued (calls record) := by
  cases h with
  | unasked => exact .nothing
  | done _ he =>
    rw [calls_append, he.calls_eq]
    exact .asked _ (.ok ())
  | failed _ he fault =>
    rw [calls_append, he.calls_eq]
    exact .asked _ (.error fault)

theorem Issues.follows (h : Issues settings t ctx record ctx') : ctx.Follows record ctx' := by
  cases h with
  | unasked => exact ⟨rfl, rfl, rfl, rfl, rfl, (List.append_nil _).symm⟩
  | done _ he =>
    refine ⟨rfl, rfl, rfl, rfl, rfl, ?_⟩
    rw [describedBy_append, he.describedBy_eq, Infraction.word_eq]
    rfl
  | failed _ he fault =>
    refine ⟨rfl, rfl, rfl, rfl, rfl, ?_⟩
    rw [describedBy_append, he.describedBy_eq]
    exact (List.append_nil _).symm

theorem Carries.follows (h : t.Carries settings ctx record ctx') : ctx.Follows record ctx' := by
  cases h with
  | steps hn hr hi => exact (hn.follows.trans hr.follows).trans hi.follows

end Sanction

/-- Carrying out a set asks for at most one message, one rename and one infraction, in this order. -/
theorem ActionSet.Carries.order {settings : ModerationSettings} {set : ActionSet}
    {ctx ctx' : Context} {record : Conversation Moderation}
    (h : set.Carries settings ctx record ctx') :
    ∃ told renamed issued, calls record = told ++ renamed ++ issued ∧
      Told told ∧ Renamed renamed ∧ Issued issued := by
  cases h with
  | nothing => exact ⟨[], [], [], rfl, .nothing, .nothing, .nothing⟩
  | sanction _ hc =>
    cases hc with
    | steps hn hr hi =>
      exact ⟨_, _, _, by simp only [calls_append], hn.told, hr.renamed, hi.issued⟩

theorem ActionSet.Carries.follows {settings : ModerationSettings} {set : ActionSet}
    {ctx ctx' : Context} {record : Conversation Moderation}
    (h : set.Carries settings ctx record ctx') : ctx.Follows record ctx' := by
  cases h with
  | nothing => exact ⟨rfl, rfl, rfl, rfl, rfl, (List.append_nil _).symm⟩
  | sanction _ hc => exact hc.follows

/-! ## § Evaluation -/

/-- A list that leaves the context as it is. -/
def FilterList.ReadsOnly (list : FilterList) : Prop := ∀ ctx, (list.evaluate ctx).2 = ctx

/-- A list that reports at least one filter. -/
def FilterList.Reports (list : FilterList) (ctx : Context) : Prop :=
  ∃ f fs, (list.evaluate ctx).1 = .ok (f :: fs)

def Catalogue.ReadsOnly (catalogue : Catalogue) : Prop :=
  ∀ event, ∀ list ∈ catalogue.subscribers event, list.ReadsOnly

namespace Dispatch

open ChatModeration.Action

variable {s : Surroundings Moderation}

/-- What each list makes of a context. -/
def findings (lists : List FilterList) (ctx : Context) : List ListOutcome :=
  lists.map fun list => ⟨list.name, (list.evaluate ctx).1⟩

theorem consult_of_readsOnly {lists : List FilterList} (h : ∀ list ∈ lists, list.ReadsOnly)
    (ctx : Context) : consult lists ctx = (findings lists ctx, ctx) := by
  induction lists with
  | nil => rfl
  | cons list rest ih =>
    have hlist : (list.evaluate ctx).2 = ctx := h list List.mem_cons_self ctx
    have hrest := ih fun l hl => h l (List.mem_cons_of_mem _ hl)
    unfold consult
    rw [show list.evaluate ctx = ((list.evaluate ctx).1, ctx) from Prod.ext rfl hlist]
    simp only [hrest]
    rfl

/-- The line in the log about a list, if it failed. -/
def failureLine? (event : FilterEvent) (o : ListOutcome) : Option (Exchange Moderation) :=
  match o.outcome with
  | .error fault => some (logged (.listFailed fault o.list event))
  | .ok _ => none

theorem play_logFailures (hlog : s.Logs) (event : FilterEvent) (outcomes : List ListOutcome)
    (ctx : Context) (past : Conversation Moderation) :
    (logFailures event outcomes).play s ctx past =
      ((.ok (), ctx), past ++ outcomes.filterMap (failureLine? event)) := by
  induction outcomes generalizing past with
  | nil => simp [logFailures]
  | cons o rest ih =>
    obtain ⟨name, outcome⟩ := o
    cases outcome with
    | error fault =>
      simp only [logFailures, play_bind, play_log hlog, ih]
      simp [failureLine?]
    | ok filters =>
      have hskip : (logFailures event (⟨name, .ok filters⟩ :: rest)).play s ctx past =
          (logFailures event rest).play s ctx past := rfl
      rw [hskip, ih, List.filterMap_cons_none rfl]

/-- The lines about the lists that failed to evaluate a context. -/
def failures (catalogue : Catalogue) (ctx : Context) : Conversation Moderation :=
  (findings (catalogue.subscribers ctx.event) ctx).filterMap (failureLine? ctx.event)

theorem mem_failures {catalogue : Catalogue} {ctx : Context} {e : Exchange Moderation}
    (h : e ∈ failures catalogue ctx) :
    ∃ fault list, e = logged (.listFailed fault list ctx.event) := by
  obtain ⟨⟨name, outcome⟩, _, ho⟩ := List.mem_filterMap.mp h
  cases outcome with
  | error fault => exact ⟨fault, name, (Option.some.inj ho).symm⟩
  | ok filters => cases ho

theorem calls_failures (catalogue : Catalogue) (ctx : Context) :
    calls (failures catalogue ctx) = [] := by
  have hno : ∀ e ∈ failures catalogue ctx, e.call? = none := by
    intro e he
    obtain ⟨fault, list, rfl⟩ := mem_failures he
    rfl
  rw [calls, List.filterMap_eq_nil_iff.mpr hno]
  rfl

/-- The context with the records of the filters. -/
def withRecords (ctx : Context) (filters : List TriggeredFilter) : Context :=
  { ctx with matchRecords := ctx.matchRecords ++ filters.flatMap (·.found) }

/-- An evaluation with lists that leave the context alone writes about those that fail and asks for
nothing else. -/
theorem play_evaluate (hlog : s.Logs) {catalogue : Catalogue} (hreads : catalogue.ReadsOnly)
    {ctx : Context} {triggered : List TriggeredList}
    (h : reports (findings (catalogue.subscribers ctx.event) ctx) = triggered)
    (past : Conversation Moderation) :
    (evaluate catalogue).play s ctx past =
      ((.ok ⟨triggered, ActionSet.mergeAll ((filtersOf triggered).map (·.actions))⟩,
          withRecords ctx (filtersOf triggered)),
        past ++ failures catalogue ctx) := by
  have hconsult : consult (catalogue.subscribers ctx.event) ctx =
      (findings (catalogue.subscribers ctx.event) ctx, ctx) :=
    consult_of_readsOnly (hreads ctx.event) ctx
  subst h
  simp only [evaluate, play_bind, play_get, hconsult, play_set, play_logFailures hlog, play_modify]
  rfl

/-- Nothing is triggered when no list reports a filter. -/
theorem reports_eq_nil_iff {lists : List FilterList} {ctx : Context} :
    reports (findings lists ctx) = [] ↔ ∀ list ∈ lists, ¬ list.Reports ctx := by
  unfold reports
  rw [List.filterMap_eq_nil_iff]
  constructor
  · intro h list hlist ⟨f, fs, hreport⟩
    have hnone := h ⟨list.name, _⟩ (List.mem_map_of_mem hlist)
    simp [hreport] at hnone
  · intro h o ho
    obtain ⟨list, hlist, rfl⟩ := List.mem_map.mp ho
    cases houtcome : (list.evaluate ctx).1 with
    | error fault => simp
    | ok filters =>
      cases filters with
      | nil => simp
      | cons f fs => exact absurd ⟨f, fs, houtcome⟩ (h list hlist)

/-! ## § Dispatch -/

theorem play_alert (hlog : s.Logs) (settings : DispatchSettings) (triggered : List TriggeredList)
    (ctx : Context) (past : Conversation Moderation) :
    ∃ alerted record, (alert settings triggered).play s ctx past =
        ((.ok alerted, ctx), past ++ record) ∧
      Alerted (Alert.compose ctx triggered) settings.alertChannel (calls record) alerted := by
  obtain ⟨moderation, channel⟩ := settings
  cases channel with
  | none =>
    refine ⟨false, [logged (.noAlertChannel ctx.event ctx.author.id)], ?_, .unavailable⟩
    simp only [alert, play_bind, play_get, play_log hlog, play_pure]
  | some channel =>
    cases hsend : s past (.platform (.sendAlert channel (Alert.compose ctx triggered))) with
    | error fault =>
      refine ⟨false, [asked (.sendAlert channel (Alert.compose ctx triggered)) (.error fault),
        logged (.alertFailed fault channel.id)], ?_, .failed channel fault⟩
      simp only [alert, play_bind, play_get, play_tryCatch, play_platform hsend, play_log hlog, id]
      simp
    | ok u =>
      refine ⟨true, [asked (.sendAlert channel (Alert.compose ctx triggered)) (.ok ())], ?_,
        .sent channel⟩
      simp only [alert, play_bind, play_get, play_tryCatch, play_platform hsend, id]
      rfl

/-- When nothing is triggered, the evaluation is all there is. -/
theorem play_dispatch_quiet (hlog : s.Logs) (settings : DispatchSettings) {catalogue : Catalogue}
    (hreads : catalogue.ReadsOnly) (ctx : Context)
    (hnone : ∀ list ∈ catalogue.subscribers ctx.event, ¬ list.Reports ctx)
    (past : Conversation Moderation) :
    ∃ evaluation ctx', (dispatch settings catalogue).play s ctx past =
      ((.ok (evaluation, false), ctx'), past ++ failures catalogue ctx) := by
  refine ⟨⟨[], ActionSet.mergeAll []⟩, withRecords ctx [], ?_⟩
  rw [dispatch, play_bind_ok (play_evaluate hlog hreads (reports_eq_nil_iff.mpr hnone) past)]
  rfl

/-- When something is, the reaction is carried out, then the moderators are alerted. -/
theorem play_dispatch_triggered (hlog : s.Logs) (settings : DispatchSettings)
    {catalogue : Catalogue} (hreads : catalogue.ReadsOnly) (ctx : Context)
    (hsome : ∃ list ∈ catalogue.subscribers ctx.event, list.Reports ctx)
    (hsend : ctx.sendAlert = true) (past : Conversation Moderation) :
    ∃ evaluation alerted ctx' carried sent report,
      (dispatch settings catalogue).play s ctx past =
        ((.ok (evaluation, alerted), ctx'),
          past ++ failures catalogue ctx ++ carried ++ sent ++ [logged (.filtersTriggered report)]) ∧
      evaluation.triggered ≠ [] ∧
      evaluation.actions.Carries settings.moderation
        (withRecords ctx (filtersOf evaluation.triggered)) carried ctx' ∧
      Alerted (Alert.compose ctx' evaluation.triggered) settings.alertChannel (calls sent)
        alerted := by
  generalize htriggered : reports (findings (catalogue.subscribers ctx.event) ctx) = triggered
  have hne : triggered ≠ [] := by
    rintro rfl
    obtain ⟨list, hlist, h⟩ := hsome
    exact reports_eq_nil_iff.mp htriggered list hlist h
  have hnonempty : triggered.isEmpty = false := List.isEmpty_eq_false_iff.mpr hne
  let actions := ActionSet.mergeAll ((filtersOf triggered).map (·.actions))
  obtain ⟨ctx', carried, hcarry, hc⟩ := actions.play_apply hlog settings.moderation
    (withRecords ctx (filtersOf triggered)) (past ++ failures catalogue ctx)
  obtain ⟨alerted, sent, halert, ha⟩ := play_alert hlog settings triggered ctx'
    (past ++ failures catalogue ctx ++ carried)
  have hsend' : ctx'.sendAlert = true := hc.follows.sendAlert.trans hsend
  refine ⟨⟨triggered, actions⟩, alerted, ctx', carried, sent, report ctx' triggered alerted, ?_,
    hne, hc, ha⟩
  rw [dispatch, play_bind_ok (play_evaluate hlog hreads htriggered past)]
  simp only [hnonempty, Bool.false_eq_true, if_false, play_bind, hcarry, play_get, hsend', if_true,
    halert, play_log hlog, play_pure, actions]

/-! ## § A message and a list -/

/-- Surroundings that answer private messages in one way and all other calls in another. -/
def answering (delivery : Except Fault Delivery) (outcome : Except Fault Unit) :
    Surroundings Moderation := fun _ r =>
  match r with
  | .platform (.mention _) => .ok []
  | .platform (.sendDirectMessage ..) => delivery
  | .platform (.sendToChannel ..) => outcome
  | .platform (.issueInfraction _) => outcome
  | .platform (.forceRename _) => outcome
  | .platform (.sendAlert ..) => outcome
  | .log _ => .ok ()
  | .clock => (0 : Number)

theorem answering_logs (delivery : Except Fault Delivery) (outcome : Except Fault Unit) :
    (answering delivery outcome).Logs := fun _ _ => rfl

/-- Surroundings in which private messages are closed and nothing but infractions is carried out. -/
def closedToMessages : Surroundings Moderation := fun _ r =>
  match r with
  | .platform (.mention actor) => .ok (Text.ofString "<@" ++ actor.id ++ Text.ofString ">")
  | .platform (.sendDirectMessage ..) => .ok .forbidden
  | .platform (.sendToChannel ..) => .error (.failure [])
  | .platform (.issueInfraction _) => .ok ()
  | .platform (.forceRename _) => .error (.failure [])
  | .platform (.sendAlert ..) => .error (.failure [])
  | .log _ => .ok ()
  | .clock => (0 : Number)

theorem closedToMessages_logs : closedToMessages.Logs := fun _ _ => rfl

/-- A catalogue with one token list. -/
def tokens (filters : List Filter) : Catalogue :=
  (Catalogue.empty.install (FilterList.token.add filters)).1

theorem subscribers_tokens (filters : List Filter) (event : FilterEvent) :
    (tokens filters).subscribers event = [FilterList.token.add filters] := by
  cases event <;> rfl

theorem tokens_readsOnly (filters : List Filter) : (tokens filters).ReadsOnly := by
  intro event list hlist ctx
  rw [subscribers_tokens, List.mem_singleton] at hlist
  rw [hlist]
  rfl

/-- A filter for `spam` that notifies and mutes. -/
def spamFilter (description : Text) : Filter where
  id := 1
  content := Text.ofString "spam"
  description := some description
  actions := ⟨some ⟨.mute, Text.ofString "spam", some 600, Text.ofString "Please stop", [], none⟩⟩

def general : Channel := ⟨Text.ofString "2002", [], some (Text.ofString "guild-1")⟩

/-- A message that says `spam`. -/
def spam : Incoming :=
  ⟨.message, ⟨Text.ofString "1001", [], none, false⟩, general, Text.ofString "spam", none, []⟩

def toWebhook : DispatchSettings := ⟨⟨general, 0⟩, some ⟨Text.ofString "webhook-1"⟩⟩

theorem spam_reports : ∃ list ∈ (tokens [spamFilter []]).subscribers spam.event,
    list.Reports (Context.ofIncoming spam) := by
  refine ⟨FilterList.token.add [spamFilter []], by simp [subscribers_tokens], ?_⟩
  have hne : Token.triggered [spamFilter []] spam.content ≠ [] := by decide +kernel
  obtain ⟨f, fs, h⟩ := List.exists_cons_of_ne_nil hne
  exact ⟨f, fs, congrArg Except.ok h⟩

/-! ## § Every dispatch -/

/-- **The conduct of a dispatch.**  With a log that never fails and lists that leave the context
alone, a dispatch gives a result whatever the platform does.  When no list reports a filter, it writes
about the lists that failed and does nothing else.  Otherwise it tells, renames and sanctions, each
at most once and in this order, and then alerts.  The alert says who wrote where, what was triggered
and what was found, and on the next line it has the words for just those calls that went through; it
shows this line in full if there is room for what stands up to its end. -/
theorem dispatch_conduct (hlog : s.Logs) (settings : DispatchSettings) {catalogue : Catalogue}
    (hreads : catalogue.ReadsOnly) (incoming : Incoming) :
    ∃ evaluation alerted ctx record,
      Program.play s (start incoming (dispatch settings catalogue)) [] =
        ((.ok (evaluation, alerted), ctx), record) ∧
      ((∀ list ∈ catalogue.subscribers incoming.event,
          ¬ list.Reports (Context.ofIncoming incoming)) →
        alerted = false ∧
        ∀ e ∈ record, ∃ fault list, e = logged (.listFailed fault list incoming.event)) ∧
      ((∃ list ∈ catalogue.subscribers incoming.event,
          list.Reports (Context.ofIncoming incoming)) →
        ∃ told renamed issued sent text,
          calls record = told ++ renamed ++ issued ++ sent ∧
          Told told ∧ Renamed renamed ∧ Issued issued ∧
          Alerted (Alert.compose ctx evaluation.triggered) settings.alertChannel sent alerted ∧
          ctx.actionDescriptions = describedBy record ∧
          (Alert.compose ctx evaluation.triggered).text? = some text ∧
          Alert.Shows text
            (Text.join [0x0A]
              (Alert.openingLines incoming evaluation.triggered
                  ((filtersOf evaluation.triggered).flatMap (·.found)) ++
                [Alert.actionsLine (describedBy record)]))
            (Alert.contentPart incoming)) := by
  by_cases hsome : ∃ list ∈ catalogue.subscribers incoming.event,
      list.Reports (Context.ofIncoming incoming)
  · obtain ⟨evaluation, alerted, ctx, carried, sent, report, hplay, htriggered, hc, ha⟩ :=
      play_dispatch_triggered hlog settings hreads (Context.ofIncoming incoming) hsome rfl []
    obtain ⟨told, renamed, issued, horder, ht, hr, hi⟩ := hc.order
    refine ⟨evaluation, alerted, ctx, _, hplay, fun hnone => ?_, fun _ => ?_⟩
    · obtain ⟨list, hlist, h⟩ := hsome
      exact absurd h (hnone list hlist)
    · have hwords : ctx.actionDescriptions = describedBy ([] ++
          failures catalogue (Context.ofIncoming incoming) ++ carried ++ sent ++
            [logged (.filtersTriggered report)]) := by
        have hcarried : ctx.actionDescriptions = describedBy carried := hc.follows.described
        rw [hcarried]
        simp [describedBy, calls_failures, ha.words]
      have hincoming : ctx.toIncoming = incoming := hc.follows.incoming
      have hfound : ctx.matchRecords = (filtersOf evaluation.triggered).flatMap (·.found) :=
        hc.follows.matchRecords
      obtain ⟨text, htext, hshows⟩ := Alert.shows_compose ctx htriggered fun word hword =>
        isAscii_of_mem_describedBy (hwords ▸ hword)
      rw [hincoming, hfound, hwords] at hshows
      refine ⟨told, renamed, issued, calls sent, text, ?_, ht, hr, hi, ha, hwords, htext, hshows⟩
      simp [calls_failures, horder]
  · have hnone : ∀ list ∈ catalogue.subscribers incoming.event,
        ¬ list.Reports (Context.ofIncoming incoming) := fun list hlist h => hsome ⟨list, hlist, h⟩
    obtain ⟨evaluation, ctx, hplay⟩ :=
      play_dispatch_quiet hlog settings hreads (Context.ofIncoming incoming) hnone []
    exact ⟨evaluation, false, ctx, _, hplay, fun _ => ⟨rfl, fun e he => mem_failures he⟩,
      fun h => absurd h hsome⟩

/-- The texts of the alerts that were asked for. -/
def alertTexts (record : Conversation Moderation) : List Text :=
  (calls record).filterMap fun c =>
    match c.request with
    | .sendAlert _ alert => alert.text?
    | _ => none

/-- What tells, renames or issues is no alert. -/
theorem alertTexts_eq {record : Conversation Moderation} {told renamed issued sent : List Call}
    {alert : Alert} {text : Text} {channel : AlertChannel} {alerted : Bool}
    (horder : calls record = told ++ renamed ++ issued ++ sent) (ht : Told told)
    (hr : Renamed renamed) (hi : Issued issued) (ha : Alerted alert (some channel) sent alerted)
    (htext : alert.text? = some text) : alertTexts record = [text] := by
  rw [alertTexts, horder]
  cases ht <;> cases hr <;> cases hi <;> cases ha <;> simp [htext]

/-- Private messages are closed, and of the other calls only the infraction goes through: the alert
says that the author was muted, and nothing else. -/
theorem dispatch_conduct_forbidden :
    let s := closedToMessages
    let catalogue := tokens [spamFilter []]
    let shown := Text.ofString "**Triggered by:** <@1001> (`1001`)
**Triggered in:** <#2002> (`2002`)
**Token Filters:** #1 (`spam`)
**Matches:** 'spam'
**Actions Taken:** mute
**Original Content**: spam"
    s.Logs ∧ catalogue.ReadsOnly ∧
      ∃ evaluation alerted ctx record told renamed issued sent,
        Program.play s (start spam (dispatch toWebhook catalogue)) [] =
          ((.ok (evaluation, alerted), ctx), record) ∧
        calls record = told ++ renamed ++ issued ++ sent ∧
        Told told ∧ Renamed renamed ∧ Issued issued ∧
        Alerted (Alert.compose ctx evaluation.triggered) toWebhook.alertChannel sent alerted ∧
        ctx.actionDescriptions = describedBy record ∧
        describedBy record = [Text.ofString "mute"] ∧
        (Alert.compose ctx evaluation.triggered).text? = some shown ∧ alertTexts record = [shown] ∧
        Alert.Shows shown
          (Text.join [0x0A]
            (Alert.openingLines spam evaluation.triggered
                ((filtersOf evaluation.triggered).flatMap (·.found)) ++
              [Alert.actionsLine [Text.ofString "mute"]]))
          (Alert.contentPart spam) := by
  intro s catalogue shown
  have hlog : s.Logs := closedToMessages_logs
  have hreads : catalogue.ReadsOnly := tokens_readsOnly _
  have hrun : let record := (Program.play s (start spam (dispatch toWebhook catalogue)) []).2
      describedBy record = [Text.ofString "mute"] ∧ alertTexts record = [shown] := by
    decide +kernel
  obtain ⟨evaluation, alerted, ctx, record, hplay, -, hconduct⟩ :=
    dispatch_conduct hlog toWebhook hreads spam
  obtain ⟨told, renamed, issued, sent, text, horder, ht, hr, hi, ha, hwords, htext, hshows⟩ :=
    hconduct spam_reports
  rw [hplay] at hrun
  obtain ⟨hmuted, hsent⟩ := hrun
  have hshown : text = shown :=
    List.singleton_inj.mp ((alertTexts_eq horder ht hr hi ha htext).symm.trans hsent)
  rw [hshown] at htext hshows
  rw [hmuted] at hshows
  exact ⟨hlog, hreads, evaluation, alerted, ctx, record, told, renamed, issued, sent, hplay, horder,
    ht, hr, hi, ha, hwords, hmuted, htext, hsent, hshows⟩

/-- A long description pushes the line about the actions over the greatest length: `notified` is
there, `mute` is not. -/
theorem actionsLine_not_always_whole :
    ¬ ∀ (s : Surroundings Moderation) (settings : DispatchSettings) (catalogue : Catalogue)
        (incoming : Incoming), s.Logs → catalogue.ReadsOnly →
      let record := (Program.play s (start incoming (dispatch settings catalogue)) []).2
      ∀ text ∈ alertTexts record,
        Alert.actionsLine (describedBy record) ∈ Text.splitOn (· == 0x0A) text := by
  intro h
  have hcut := h (answering (.ok .sent) (.ok ())) toWebhook
    (tokens [spamFilter (List.replicate 3849 0x61)]) spam (answering_logs _ _)
    (tokens_readsOnly _)
  revert hcut
  decide +kernel

end Dispatch
end ChatModeration
