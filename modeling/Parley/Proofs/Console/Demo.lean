import Parley.Proofs.Console.Speaking
import Parley.Proofs.Examples.Quiz.Retries
import Parley.Proofs.Terminal.Markup

/-!
# Markup in what is typed

The first thing that the quiz asks for is a name, and the first thing that it says then is a
greeting with the name in it. So a chat with the quiz goes on after a name only if its screen can
draw the greeting:

* `AsksName.hear_drawn`: the name is greeted as its markup shows it;
* `AsksName.hear_undrawn`: or the chat has failed;
* `answers_are_read_as_markup`: both, and what texts of any flow come to at the console.
-/

namespace Parley.Console

open Terminal Markup Conversation Element Examples.Quiz

variable {screen : Screen} {c₀ : Conversation} {chat : Chat} {id name typed : String}
  {ps : List Segment} {out : List Char} {cause : Misuse}

/-! ### The greeting -/

/-- The greeting of a name, as it is told. -/
def greeting (name : String) : Event :=
  .output (.text ("Hello! " ++ name))

theorem isProper_greeting (h : ∀ p ∈ ps, p.IsProper) :
    ∀ p ∈ .words "Hello! ".toList :: ps, p.IsProper := by
  have hhello : Segment.IsProper (.words "Hello! ".toList) := by
    show "Hello! ".toList.all isOrdinary
    decide
  exact List.forall_mem_cons.2 ⟨hhello, h⟩

theorem printedEvent_greeting (h : screen.ReadsMarkup) (hs : name.toList = written ps)
    (hps : ∀ p ∈ ps, p.IsProper) : printedEvent screen (greeting name) =
      if (depth 0 ps).isSome then .ok (screen.plain (speaker ++ ("Hello! ".toList ++ shownOf ps)))
      else .error .markup := by
  have hwritten : ("Hello! " ++ name).toList = written (.words "Hello! ".toList :: ps) := by
    rw [String.toList_append, hs]
    rfl
  exact printedEvent_written h hwritten (isProper_greeting hps)

theorem printedEvent_greeting_unmatched {closed after : List Char} (h : screen.ReadsMarkup)
    (hs : name.toList = written ps ++ (bracketed ('/' :: closed) ++ after))
    (hps : ∀ p ∈ ps, p.IsProper) (hdepth : depth 0 ps = some 0) (htag : IsTag ('/' :: closed))
    (hclosed : '(' ∉ closed) : printedEvent screen (greeting name) = .error .markup := by
  have hwritten : ("Hello! " ++ name).toList =
      written (.words "Hello! ".toList :: ps) ++ (bracketed ('/' :: closed) ++ after) := by
    rw [String.toList_append, hs]
    rfl
  exact printedEvent_unmatched h hwritten (isProper_greeting hps) hdepth htag hclosed

/-! ### The opening -/

/-- The chat has been opened and asks for the name. -/
structure AsksName (screen : Screen) (c₀ : Conversation) (chat : Chat) : Prop where
  screen : chat.screen = screen
  conversation : chat.conversation = c₀.enter (.start chatLimit)
  waits : chat.conversation.scene.top.WaitsAt layout.askName
  state : chat.conversation.state = []
  told : chat.told = chat.conversation.scene.events.length
  status : chat.status = .asking (some (.freeText defaultMaxLength))

/-- A text of ordinary characters is drawn. -/
theorem exists_printed_of_ordinary (hm : screen.ReadsMarkup) {s : String}
    (h : s.toList.all isOrdinary) : ∃ cs, printedEvent screen (.output (.text s)) = .ok cs :=
  ⟨_, printedEvent_ordinary hm h⟩

theorem asksName_start (hm : screen.ReadsMarkup)
    (h : ofBlueprint blueprint root (some (frontEnd screen)) .null id = .ok c₀)
    (showsState : Bool) : AsksName screen c₀ (Chat.start screen c₀ showsState) := by
  obtain ⟨hfresh, hfront, hevents₀, -⟩ := ofBlueprint_ok h
  have hdescribes := (isBundled_opened h).describes
  have hinitial : c₀.initial = [] := initial_ofBlueprint rfl h
  have ha : c₀.admits (.start chatLimit) = true := by simp [Conversation.admits, hfresh.started]
  -- The console can print the opening, so the call comes to all of it.
  have hears : c₀.opened.Hears ((dialogue wording).opening []).events := by
    refine hears_opened h fun event he => ?_
    rcases List.mem_cons.1 he with rfl | he
    · exact exists_printed_of_ordinary hm (by decide)
    · rw [List.mem_singleton.1 he]
      exact ⟨_, rfl⟩
  have hresponds : ∀ t, (Entry.start chatLimit).Reaches c₀ t → c₀.opened.Responds 2 t
      (c₀.flowFor (.start chatLimit)).session.state
      (((dialogue wording).opening []).locate layout.leaf) := by
    intro t hreach
    cases hreach with
    | start hb =>
      obtain rfl := hb.unique hdescribes.start
      rw [flowFor, state_opened hfresh, hinitial]
      exact hdescribes.responds_opening (List.forall_mem_nil _) hears
  obtain ⟨hresult, hstate, -, hevents, hwaits, -⟩ := enter_of_responds hfresh (.fresh hfresh)
    ⟨[], rfl⟩ ha (by rw [hdescribes.height]; decide) hresponds
  have hwaits := hwaits .name rfl
  have hfinished : (c₀.enter (.start chatLimit)).isFinished = false :=
    (isFinished_eq hwaits.wired).trans hwaits.finished
  have hresult : ((Entry.start chatLimit).turn c₀).1 = .ok () := hresult
  have hnew : (c₀.enter (.start chatLimit)).scene.events = c₀.scene.events ++
      [.output (.text "What is your name?"), .expectation (.freeText defaultMaxLength)] := by
    rw [hevents, heard_of_console hfront, List.append_nil]
    rfl
  have htake : (Chat.mk screen c₀ showsState 0 none (screen.plain welcome) .ended).take
      (Turn.start Chat.patience) = _ :=
    Chat.take_eq (x := .start chatLimit) (by rw [hevents₀]; rfl) hnew
  -- The last thing that has been told is the question, which can be put.
  have hasked : Chat.lastQuestion [.output (.text "What is your name?"),
      .expectation (.freeText defaultMaxLength)] = some (.freeText defaultMaxLength) := rfl
  have hprompt : promptText (some (.freeText defaultMaxLength)) = .ok "You (max 100 chars): " := by
    decide +kernel
  simp only [Chat.start, htake, hresult, Chat.hasFailed, Bool.false_eq_true, if_false, Chat.goOn,
    hfinished, hasked, Option.some_or, Chat.ask, hprompt]
  exact ⟨rfl, rfl, hwaits, hstate, rfl, rfl⟩

/-! ### The answer -/

/-- What the flow does with the name, the chat's conversation comes to. -/
theorem AsksName.turn (hc : AsksName screen c₀ chat)
    (h : ofBlueprint blueprint root (some (frontEnd screen)) .null id = .ok c₀) {v : Value}
    {r : Response Place}
    (hr : c₀.opened.Responds 2 (.input layout.askName v) [] (r.locate layout.leaf)) :
    ((Entry.deliver chatLimit v).turn chat.conversation).1 = r.standing.outcome ∧
      (chat.conversation.enter (.deliver chatLimit v)).scene.events =
        chat.conversation.scene.events ++ r.events ∧
      ∀ p, r.standing = .waiting p →
        (chat.conversation.enter (.deliver chatLimit v)).scene.top.WaitsAt
          (layout.leaf p r.state) := by
  obtain ⟨hfresh, hfront, -⟩ := ofBlueprint_ok h
  have hadmits : c₀.admits (.start chatLimit) = true := by
    simp [Conversation.admits, hfresh.started]
  obtain ⟨q, htakes⟩ := takes_of_admits (.fresh hfresh) hadmits
  have hphase : chat.conversation.Phase := hc.conversation ▸ htakes.phase
  have hfrontEnd : chat.conversation.frontEnd = some (frontEnd screen) :=
    hc.conversation ▸ htakes.frontEnd_enter.trans hfront
  have hwaits := hc.waits
  have ha : chat.conversation.admits (.deliver chatLimit v) = true :=
    accepts_of_waitsAt (hc.conversation ▸ htakes.isStarted) hwaits
  have hresponds : ∀ t, (Entry.deliver chatLimit v).Reaches chat.conversation t →
      c₀.opened.Responds 2 t (chat.conversation.flowFor (.deliver chatLimit v)).session.state
        (r.locate layout.leaf) := by
    intro t hreach
    cases hreach with
    | deliver hact hl =>
      -- The active leaf is the one that asks for the name.
      obtain ⟨l, hl', -⟩ := hwaits.asker
      obtain rfl := hact.eq_of_leaf hl hwaits.active hl'
      rw [flowFor, ← state_eq hwaits.wired, hc.state]
      exact hr
  have hheight := (isBundled_opened h).height
  obtain ⟨hresult, -, -, hevents, hwaits', -⟩ := enter_of_responds hfresh hphase
    ⟨[.start chatLimit], hc.conversation⟩ ha (hheight ▸ (by decide : tasksFor 2 2 ≤ chatLimit + 1))
    hresponds
  rw [heard_of_console hfrontEnd, List.append_nil] at hevents
  exact ⟨hresult, hevents, hwaits'⟩

/-- What is said first after the name. -/
theorem hello_text (name : String) :
    hello (Mapping.insert [] (.text "name") (.text name)) =
      .ok (some (.text ("Hello! " ++ name))) :=
  hello_eq (Mapping.isWritable_insert rfl rfl)
    (rfl : Mapping.find? (Mapping.insert [] (.text "name") (.text name)) _ = some (.text name))

theorem hasFailed_of_asking {q : Option Payload} (h : chat.status = .asking q) :
    chat.hasFailed = false := by
  rw [Chat.hasFailed, h]

/-- A name is greeted if the greeting can be drawn, and the chat goes on. -/
theorem AsksName.hear_drawn (hc : AsksName screen c₀ chat) (hm : screen.ReadsMarkup)
    (h : ofBlueprint blueprint root (some (frontEnd screen)) .null id = .ok c₀)
    (he : isExit (Text.stripped typed) = false)
    (hdrawn : printedEvent screen (greeting (Text.stripped typed)) = .ok out) :
    (∃ rest, (chat.hear (some typed)).printed = chat.printed ++ out ++ rest) ∧
    (chat.hear (some typed)).status = .asking (some (.choice languages)) := by
  rw [Chat.hear_of_answer hc.status rfl he]
  generalize Text.stripped typed = name at hdrawn
  have hevents : ((dialogue wording).answer .name (.text name) []).events =
      [greeting name, .output (.text "What are you comfortable with?"),
        .expectation (.choice languages)] := by
    simp only [dialogue]
    rw [Response.saying_of_ok (hello_text name)]
    rfl
  have hears : c₀.opened.Hears ((dialogue wording).answer .name (.text name) []).events := by
    rw [hevents]
    refine hears_opened h fun event he => ?_
    rcases List.mem_cons.1 he with rfl | he
    · exact ⟨_, hdrawn⟩
    · rcases List.mem_cons.1 he with rfl | he
      · exact exists_printed_of_ordinary hm (by decide)
      · rw [List.mem_singleton.1 he]
        exact ⟨_, rfl⟩
  have hwaiting : ((dialogue wording).answer .name (.text name) []).standing =
      .waiting .language := by
    simp only [dialogue]
    rw [Response.saying_of_ok (hello_text name)]
    rfl
  obtain ⟨hresult, hnew, hwaits⟩ := hc.turn h
    ((isBundled_opened h).describes.responds_name (List.forall_mem_nil _) (.text name) hears)
  have hwait := hwaits .language hwaiting
  rw [hevents] at hnew
  rw [hwaiting] at hresult
  -- The greeting is the first event, so it is printed before the rest.
  obtain ⟨⟨rest, hprinted⟩, hstatus⟩ := Chat.answer_of_ok hc.told hnew hresult
    (hasFailed_of_asking hc.status) ((isFinished_eq hwait.wired).trans hwait.finished) rfl
  have hfirst : chat.drawn [greeting name, .output (.text "What are you comfortable with?"),
      .expectation (.choice languages)] = out ++ chat.drawn
        [.output (.text "What are you comfortable with?"), .expectation (.choice languages)] := by
    rw [Chat.drawn, Chat.drawn, List.flatMap_cons, hc.screen, hdrawn]
    rfl
  rw [hfirst, ← List.append_assoc, List.append_assoc _ _ rest] at hprinted
  exact ⟨⟨_, hprinted⟩, hstatus⟩

/-- A name whose greeting cannot be drawn is the end of the chat. -/
theorem AsksName.hear_undrawn (hc : AsksName screen c₀ chat)
    (h : ofBlueprint blueprint root (some (frontEnd screen)) .null id = .ok c₀)
    (he : isExit (Text.stripped typed) = false)
    (hw : printedEvent screen (greeting (Text.stripped typed)) = .error cause) :
    (chat.hear (some typed)).printed = chat.printed ∧
    (chat.hear (some typed)).screen = screen ∧
    (chat.hear (some typed)).status = .failed (.misuse cause) := by
  rw [Chat.hear_of_answer hc.status rfl he]
  generalize Text.stripped typed = name at hw
  have hrefused : c₀.opened.session.reception (greeting name) = .error (.misuse cause) := by
    rw [reception_opened h, refusal_of_undrawn hw, Option.elim_some]
  obtain ⟨hresult, hnew, -⟩ := hc.turn h (r := ⟨[], _, .failed (.misuse cause)⟩)
    ((isBundled_opened h).describes.responds_unsaid (List.forall_mem_nil _) (.text name)
      (hello_text name) hrefused)
  obtain ⟨hprinted, hscreen, hstatus⟩ := Chat.answer_of_error hc.told hnew hresult
  exact ⟨hprinted.trans (List.append_nil _), hscreen.trans hc.screen, hstatus⟩

/-- Whatever is typed after such a name, the chat comes to what it has failed with. -/
theorem AsksName.ofChat_hearAll (hc : AsksName screen c₀ chat)
    (h : ofBlueprint blueprint root (some (frontEnd screen)) .null id = .ok c₀)
    (he : isExit (Text.stripped typed) = false)
    (hw : printedEvent screen (greeting (Text.stripped typed)) = .error cause)
    (lines : List String) : Outcome.ofChat (chat.hearAll (typed :: lines)) =
      (Outcome.ofFault screen (.misuse cause)).after chat.printed := by
  obtain ⟨hprinted, hscreen, hstatus⟩ := hc.hear_undrawn h he hw
  have hall : chat.hearAll (typed :: lines) = (chat.hear (some typed)).hearAll lines := rfl
  rw [hall, Chat.hearAll_of_failed hstatus, Chat.ofChat_of_failed hstatus, hprinted, hscreen]

/-- The quiz can be built for any screen. -/
theorem exists_conversation (screen : Screen) :
    ∃ c₀, ofBlueprint blueprint root (some (frontEnd screen)) .null "" = .ok c₀ :=
  exists_bundled rfl ""

/-- A chat with the quiz that has been opened asks for the name. -/
theorem exists_asksName (hm : screen.ReadsMarkup) {fs : Files} {o : ChatOptions}
    (h : openDemo screen fs o = .ok chat) :
    ∃ c₀, ofBlueprint blueprint root (some (frontEnd screen)) .null "" = .ok c₀ ∧
      AsksName screen c₀ chat := by
  obtain ⟨c₀, hc⟩ := exists_conversation screen
  refine ⟨c₀, hc, ?_⟩
  rw [openDemo, openChat, hc] at h
  cases hl : Logging.setup fs (o.logLevel.getD demoLevel) o.logFile with
  | error cause =>
    rw [hl] at h
    cases h
  | ok =>
    rw [hl] at h
    cases h
    exact asksName_start hm hc o.showState

theorem exists_openDemo (screen : Screen) (fs : Files) :
    ∃ chat, openDemo screen fs ⟨none, none, false⟩ = .ok chat := by
  obtain ⟨c₀, hc⟩ := exists_conversation screen
  refine ⟨Chat.start screen c₀ false, ?_⟩
  rw [openDemo, openChat, hc]
  rfl

/-- What becomes of any words on a screen that keeps to the rules of markup, as a text that a flow
    shows and as a name that is typed in the quiz:

    * words in segments are drawn behind the speaker as they show, if each closing tag closes
      something, and they show as they are only if no tag is among them, be it escaped. A closing
      tag that closes nothing makes the text invalid, whatever follows it;
    * in a conversation over any built flow, a call that comes to words that cannot be drawn fails
      for the same cause, neither waits nor ends, and nothing changes any more: every further input
      is refused;
    * in a chat with the quiz, a name that is no word to leave with is greeted, and the chat goes on
      with the next question, if the greeting can be drawn, for which the same holds as for the
      words of the name. If it cannot, then nothing is said any more, whatever is typed after it:
      the cause is reported if it has a wording, and it breaks the program down if the markup is
      invalid. -/
theorem answers_are_read_as_markup {screen : Screen} (hm : screen.ReadsMarkup) :
    (∀ (words : String) (ps : List Segment), words.toList = written ps → (∀ p ∈ ps, p.IsProper) →
      (printedEvent screen (.output (.text words)) =
        if (depth 0 ps).isSome then .ok (screen.plain (speaker ++ shownOf ps))
        else .error .markup) ∧
      (shownOf ps = words.toList ↔ ∀ p ∈ ps, p.isWords)) ∧
    (∀ (words : String) (ps : List Segment) (name after : List Char),
      words.toList = written ps ++ (bracketed ('/' :: name) ++ after) → (∀ p ∈ ps, p.IsProper) →
      depth 0 ps = some 0 → IsTag ('/' :: name) → '(' ∉ name →
      printedEvent screen (.output (.text words)) = .error .markup) ∧
    (∀ (b : Blueprint) (root id words : String) (value : Value) (c₀ c : Conversation)
      (rs : List Request) (x : Entry) (scene : Scene) (t : Task) (cause : Misuse),
      ofBlueprint b root (some (frontEnd screen)) value id = .ok c₀ → c₀.Calls rs c x →
      (scene, t) ∈ x.tasks c → t.Tells scene.top (.output (.text words)) →
      printedEvent screen (.output (.text words)) = .error cause →
      (x.turn c).1 = .error (.misuse cause) ∧ (c.enter x).isAwaiting = false ∧
        (c.enter x).isFinished = false ∧ (∀ rs', (c.enter x).afterAll rs' = c.enter x) ∧
        ∀ limit v, Turn.deliver limit v (c.enter x) =
          (.error (.protocol .inputUnexpected), c.enter x)) ∧
    ∀ (fs : Files) (o : ChatOptions) (chat : Chat) (typed name : String),
      openDemo screen fs o = .ok chat → Text.stripped typed = name → isExit name = false →
      (∀ out, printedEvent screen (greeting name) = .ok out →
        (∃ rest, (chat.hear (some typed)).printed = chat.printed ++ out ++ rest) ∧
        (chat.hear (some typed)).status = .asking (some (.choice languages))) ∧
      (∀ cause, printedEvent screen (greeting name) = .error cause →
        ∀ lines, Outcome.ofChat (chat.hearAll (typed :: lines)) =
          (Outcome.ofFault screen (.misuse cause)).after chat.printed) ∧
      (∀ ps : List Segment, name.toList = written ps → (∀ p ∈ ps, p.IsProper) →
        printedEvent screen (greeting name) =
          if (depth 0 ps).isSome then
            .ok (screen.plain (speaker ++ ("Hello! ".toList ++ shownOf ps)))
          else .error .markup) ∧
      ∀ (ps : List Segment) (closed after : List Char),
        name.toList = written ps ++ (bracketed ('/' :: closed) ++ after) →
        (∀ p ∈ ps, p.IsProper) → depth 0 ps = some 0 → IsTag ('/' :: closed) → '(' ∉ closed →
        ∀ lines, Outcome.ofChat (chat.hearAll (typed :: lines)) =
          ⟨chat.printed, 1, some (.fault (.misuse .markup))⟩ := by
  refine ⟨fun words ps hs hps => ⟨printedEvent_written hm hs hps, hs ▸ shownOf_eq_written_iff⟩,
    fun words ps name after hs hps hdepth htag hname =>
      printedEvent_unmatched hm hs hps hdepth htag hname, ?_, ?_⟩
  · -- A text in a flow.
    intro b root id words value c₀ c rs x scene t cause h hc hq ht hw
    exact call_fails_of_undrawn h hc hq ht ⟨rfl, rfl⟩ hw
  · -- A name in the quiz.
    rintro fs o chat typed _ h rfl he
    obtain ⟨c₀, hc, hasks⟩ := exists_asksName hm h
    refine ⟨fun out hout => hasks.hear_drawn hm hc he hout,
      fun cause hw lines => hasks.ofChat_hearAll hc he hw lines,
      fun ps hs hps => printedEvent_greeting hm hs hps,
      fun ps closed after hs hps hdepth htag hclosed lines => ?_⟩
    have hw := printedEvent_greeting_unmatched hm hs hps hdepth htag hclosed
    have houtcome : (Outcome.ofFault screen (.misuse .markup)).after chat.printed =
        ⟨chat.printed, 1, some (.fault (.misuse .markup))⟩ := by
      simp [Outcome.ofFault, Misuse.message?, Outcome.broken, Outcome.after]
    rw [hasks.ofChat_hearAll hc he hw lines, houtcome]

end Parley.Console

namespace Parley

open Console Examples.Quiz

/-- A flow that says something. -/
def Blueprint.saying (words : String) : Blueprint :=
  ⟨[.leaf "say" { reply := fun _ _ => .ok .nothing } (showing words) none,
    .manager "main" ["say"] "say" none ""]⟩

namespace Console

open Terminal Markup Conversation

/-- The screen of the program. -/
def console : Screen := Services.standard.screen

theorem readsMarkup_console : console.ReadsMarkup :=
  Screen.readsMarkup_ofWidth consoleWidth

/-- A text that closes a style that is not open. -/
theorem closing_eq : "[/x]".toList = written [] ++ (bracketed ['/', 'x'] ++ []) := rfl

/-- A name with a closing tag ends a chat with the quiz, and such a text fails the start of a flow
    that says it; an opening tag is left out. -/
theorem closing_tag_breaks_down :
    (∃ chat, openDemo console ⟨[], []⟩ ⟨none, none, false⟩ = .ok chat ∧
      Outcome.ofChat (chat.hearAll ["[/x]", "Java"]) =
        ⟨chat.printed, 1, some (.fault (.misuse .markup))⟩) ∧
    (∃ c₀, ofBlueprint (.saying "[/x]") "main" (some (frontEnd console)) .null "c" = .ok c₀ ∧
      ((Entry.start 5).turn c₀).1 = .error (.misuse .markup)) ∧
    printedEvent console (.output (.text "Hi [b]you")) =
      .ok (console.plain (speaker ++ "Hi you".toList)) := by
  obtain ⟨hwords, hunmatched, hflows, hquiz⟩ := answers_are_read_as_markup readsMarkup_console
  have hclosed : printedEvent console (.output (.text "[/x]")) = .error .markup :=
    hunmatched _ _ _ _ closing_eq (List.forall_mem_nil _) rfl (by decide) (by decide)
  refine ⟨?_, ?_, ?_⟩
  · obtain ⟨chat, h⟩ := exists_openDemo console ⟨[], []⟩
    have hname : Text.stripped "[/x]" = "[/x]" := by decide +kernel
    obtain ⟨-, -, -, hends⟩ := hquiz _ _ chat "[/x]" _ h hname (by decide +kernel)
    exact ⟨chat, h, hends _ _ _ closing_eq (List.forall_mem_nil _) rfl (by decide) (by decide)
      ["Java"]⟩
  · have h : ofBlueprint (.saying "[/x]") "main" (some (frontEnd console)) .null "c" = .ok _ := rfl
    obtain ⟨hfails, -⟩ := hflows _ _ _ _ _ _ _ [.start 5] (.start 5) _ _ _ h ⟨[], [], rfl, rfl⟩
      (List.mem_of_getElem? (i := 1) rfl) (.output rfl rfl rfl) hclosed
    exact ⟨_, h, hfails⟩
  · obtain ⟨hdrawn, -⟩ := hwords "Hi [b]you"
      [.words "Hi ".toList, .opening ['b'], .words "you".toList] (by decide) (by decide)
    rw [hdrawn, if_pos (by decide)]
    congr 1

/-- A name that is typed can break the quiz down: neither the greeting nor any later text is
    printed. -/
theorem quiz_breaks_down : ∃ cs, run .standard ⟨[], []⟩ ["demo"] ["[/x]", "Java", "3"] =
    ⟨cs, 1, some (.fault (.misuse .markup))⟩ := by
  obtain ⟨chat, h⟩ := exists_openDemo console ⟨[], []⟩
  obtain ⟨c₀, hc, hasks⟩ := exists_asksName readsMarkup_console h
  have hstays : isExit (Text.stripped "[/x]") = false := by decide +kernel
  have hname : Text.stripped "[/x]" = "[/x]" := by decide +kernel
  have hw : printedEvent console (greeting (Text.stripped "[/x]")) = .error .markup := by
    rw [hname]
    exact printedEvent_greeting_unmatched readsMarkup_console closing_eq (List.forall_mem_nil _) rfl
      (by decide) (by decide)
  have hcommand : Command.ofArguments ["demo"] = some (.demo ⟨none, none, false⟩) := by
    decide +kernel
  have hstart : Progress.start .standard ⟨[], []⟩ (.demo ⟨none, none, false⟩) = .chatting chat :=
    congrArg Progress.ofChat? h
  have hrun : run .standard ⟨[], []⟩ ["demo"] ["[/x]", "Java", "3"] =
      Outcome.ofChat (chat.hearAll ["[/x]", "Java", "3"]) := by
    rw [run, hcommand]
    dsimp only
    rw [hstart, Progress.finish]
  rw [hrun, hasks.ofChat_hearAll hc hstays hw ["Java", "3"]]
  exact ⟨_, rfl⟩

end Console

end Parley
