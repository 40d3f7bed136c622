import Parley.Console.Program
import Parley.Proofs.Conversation.Telling
import Parley.Proofs.Flow.Response
import Parley.Proofs.Terminal.Rules

/-!
# What the console says

A text that a flow shows is drawn behind the speaker, and its markup is obeyed. On a screen that
keeps to the rules of markup, the markup of the speaker ends before the text, so what is drawn is
what the text shows alone (`printedEvent_written`, `printedEvent_unmatched`).

The console refuses what its screen cannot draw, so that the call fails in which a flow comes to it
(`call_fails_of_undrawn`), and with the call a chat (`Chat.answer_of_error`) and the program
(`Chat.ofChat_of_failed`).
-/

namespace Parley.Console

open Terminal Markup

variable {screen : Screen} {ps : List Segment} {s : String} {event : Event} {cause : Misuse}

/-- What stands before each text. -/
def speaker : List Char := "Bot > ".toList

/-- The text in segments with the speaker before it. -/
def spokenSegments (ps : List Segment) : List Segment :=
  .opening "bold blue".toList :: .words speaker :: .closing :: ps

theorem spoken_written (ps : List Segment) :
    spoken (written ps) = written (spokenSegments ps) := rfl

theorem shownOf_spokenSegments (ps : List Segment) :
    shownOf (spokenSegments ps) = speaker ++ shownOf ps := rfl

/-- The markup of the speaker does not act on the text. -/
theorem depth_spokenSegments (ps : List Segment) : depth 0 (spokenSegments ps) = depth 0 ps := rfl

theorem isProper_spokenSegments (h : ∀ p ∈ ps, p.IsProper) :
    ∀ p ∈ spokenSegments ps, p.IsProper := by
  have hopening : Segment.IsProper (.opening "bold blue".toList) :=
    ⟨by decide, by decide, by decide, by decide⟩
  have hspeaker : Segment.IsProper (.words speaker) := by
    show speaker.all isOrdinary
    decide
  exact List.forall_mem_cons.2
    ⟨hopening, List.forall_mem_cons.2 ⟨hspeaker, List.forall_mem_cons.2 ⟨trivial, h⟩⟩⟩

/-- A text in segments is drawn behind the speaker as it shows, if each closing tag closes
    something. -/
theorem printedEvent_written (h : screen.ReadsMarkup) (hs : s.toList = written ps)
    (hps : ∀ p ∈ ps, p.IsProper) : printedEvent screen (.output (.text s)) =
      if (depth 0 ps).isSome then .ok (screen.plain (speaker ++ shownOf ps))
      else .error .markup := by
  rw [printedEvent, hs, spoken_written, h.line_written (isProper_spokenSegments hps),
    depth_spokenSegments, shownOf_spokenSegments]

theorem printedEvent_unmatched {name after : List Char} (h : screen.ReadsMarkup)
    (hs : s.toList = written ps ++ (bracketed ('/' :: name) ++ after))
    (hps : ∀ p ∈ ps, p.IsProper) (hdepth : depth 0 ps = some 0) (htag : IsTag ('/' :: name))
    (hname : '(' ∉ name) : printedEvent screen (.output (.text s)) = .error .markup := by
  rw [printedEvent, hs]
  exact h.line_unmatched _ name after (isProper_spokenSegments hps) hdepth htag hname

theorem printedEvent_ordinary (h : screen.ReadsMarkup) (hs : s.toList.all isOrdinary) :
    printedEvent screen (.output (.text s)) = .ok (screen.plain (speaker ++ s.toList)) := by
  have hwritten : s.toList = written [.words s.toList] := by simp [written, Segment.written]
  have hshown : shownOf [.words s.toList] = s.toList := by simp [shownOf, Segment.shown]
  rw [printedEvent_written h hwritten (List.forall_mem_singleton.2 hs), hshown]
  rfl

theorem refusal_of_undrawn (h : printedEvent screen event = .error cause) :
    (frontEnd screen).refusal event = some (.misuse cause) := by
  simp only [frontEnd, h]

theorem refusal_of_drawn {cs : List Char} (h : printedEvent screen event = .ok cs) :
    (frontEnd screen).refusal event = none := by
  simp only [frontEnd, h]

/-! ### In a conversation -/

section

open Conversation Element

variable {c₀ : Conversation} {b : Blueprint} {root id : String} {value : Value}

/-- What the console does not refuse is taken. -/
theorem reception_opened (h : ofBlueprint b root (some (frontEnd screen)) value id = .ok c₀)
    (event : Event) : c₀.opened.session.reception event =
      ((frontEnd screen).refusal event).elim (.ok ()) .error := by
  obtain ⟨hfresh, hfront, -⟩ := ofBlueprint_ok h
  obtain ⟨m, keys, hm⟩ := hfresh.outermost
  rw [Manager.reception, frontEnd_opened hm, hfront]
  dsimp only
  cases (frontEnd screen).refusal event <;> rfl

theorem hears_opened (h : ofBlueprint b root (some (frontEnd screen)) value id = .ok c₀)
    {events : List Event} (hp : ∀ event ∈ events, ∃ cs, printedEvent screen event = .ok cs) :
    c₀.opened.Hears events := by
  intro event he
  obtain ⟨cs, hcs⟩ := hp event he
  rw [reception_opened h, refusal_of_drawn hcs, Option.elim_none]

theorem heard_of_console {c : Conversation} (h : c.frontEnd = some (frontEnd screen)) (x : Entry) :
    c.heard x = [] := by
  rw [heard, h]
  rfl

/-- In any flow, a call that comes to something that cannot be drawn fails for the same cause, and
    no call changes anything any more. -/
theorem call_fails_of_undrawn {c : Conversation} {rs : List Request} {x : Entry} {scene : Scene}
    {t : Task} (h : ofBlueprint b root (some (frontEnd screen)) value id = .ok c₀)
    (hc : c₀.Calls rs c x) (hq : (scene, t) ∈ x.tasks c)
    (ht : t.Tells scene.top event) (hlasts : event.asks = false ∧ event.ends = false)
    (hw : printedEvent screen event = .error cause) :
    (x.turn c).1 = .error (.misuse cause) ∧
      (c.enter x).isAwaiting = false ∧ (c.enter x).isFinished = false ∧
      (∀ rs', (c.enter x).afterAll rs' = c.enter x) ∧
      ∀ limit v, Turn.deliver limit v (c.enter x) =
        (.error (.protocol .inputUnexpected), c.enter x) := by
  obtain ⟨hfresh, hfe, -⟩ := ofBlueprint_ok h
  obtain ⟨hphase, hfront⟩ := hc.phase_and_frontEnd (.fresh hfresh) hfe
  obtain ⟨r, hr⟩ := takes_of_admits hphase (x.admits_of_mem_tasks hq)
  have hrec : scene.top.session.reception event = .error (.misuse cause) := by
    simp only [Manager.reception, (hr.frontEnd_tasks _ hq).trans hfront, refusal_of_undrawn hw]
  obtain ⟨hfails, hawaiting, hfinished⟩ := hr.of_tells hq ht hrec
  rw [hlasts.1] at hawaiting
  rw [hlasts.2] at hfinished
  have hstarted := hr.isStarted
  have haccepts : (c.enter x).accepts = false := by
    rw [accepts, hawaiting]
    simp
  refine ⟨hfails, hawaiting, hfinished, afterAll_of_refused (admits_eq_false hstarted haccepts),
    fun limit v => ?_⟩
  rw [deliver_of_refused haccepts, refusal, hstarted.started, hfinished]
  rfl

end

/-! ### In a chat -/

namespace Chat

variable {chat : Chat} {fault : Fault} {told : List Event} {text : String}

/-- What comes of events on the chat's screen. -/
def drawn (chat : Chat) (events : List Event) : List Char :=
  events.flatMap fun e => (printedEvent chat.screen e).toOption.getD []

/-- A chat that has failed hears nothing any more. -/
theorem hearAll_of_failed (h : chat.status = .failed fault) (lines : List String) :
    chat.hearAll lines = chat := by
  have hhear (line : Option String) : chat.hear line = chat := by
    rw [hear, h]
  have hlines : lines.foldl (fun c line => c.hear (some line)) chat = chat := by
    induction lines with
    | nil => rfl
    | cons line lines ih => rw [List.foldl_cons, hhear, ih]
  rw [hearAll, hlines, hhear]

/-- What the chat has failed with is reported, or breaks the program down. -/
theorem ofChat_of_failed (h : chat.status = .failed fault) :
    Outcome.ofChat chat = (Outcome.ofFault chat.screen fault).after chat.printed := by
  rw [Outcome.ofChat, h]

/-- A chat that takes a turn prints what is new, and fails as the turn does. -/
theorem take_eq {x : Entry}
    (htold : chat.told = chat.conversation.scene.events.length)
    (hevents : (chat.conversation.enter x).scene.events =
      chat.conversation.scene.events ++ told) :
    chat.take x.turn =
      { chat with
        conversation := chat.conversation.enter x
        told := (chat.conversation.enter x).scene.events.length
        pending := (lastQuestion told).or chat.pending
        printed := chat.printed ++ chat.drawn told
        status := match (x.turn chat.conversation).1 with
          | .ok _ => chat.status
          | .error cause => .failed cause } := by
  have hnew : (x.turn chat.conversation).2.scene.events.drop chat.told = told := by
    rw [htold, ← Conversation.enter, hevents, List.drop_left]
  simp only [take]
  rw [drawn, ← hnew]
  rfl

theorem exists_reportState (chat : Chat) : ∃ cs, chat.reportState = chat.print cs := by
  unfold reportState
  split
  · exact ⟨_, rfl⟩
  · exact ⟨[], by rw [print, List.append_nil]⟩

/-- The answer fails the chat if it fails the call, and what has been told before is printed. -/
theorem answer_of_error (htold : chat.told = chat.conversation.scene.events.length)
    (hevents : (chat.conversation.enter (.deliver chatLimit (.text text))).scene.events =
      chat.conversation.scene.events ++ told)
    (h : ((Entry.deliver chatLimit (.text text)).turn chat.conversation).1 = .error fault) :
    (chat.answer text).printed = chat.printed ++ chat.drawn told ∧
      (chat.answer text).screen = chat.screen ∧ (chat.answer text).status = .failed fault := by
  have htake : chat.take (Turn.deliver patience (.text text)) = _ := take_eq htold hevents
  simp only [answer, htake, h, hasFailed, if_true, and_self]

/-- Otherwise the chat goes on to the next question, unless the flow is over. -/
theorem answer_of_ok (htold : chat.told = chat.conversation.scene.events.length)
    (hevents : (chat.conversation.enter (.deliver chatLimit (.text text))).scene.events =
      chat.conversation.scene.events ++ told)
    (h : ((Entry.deliver chatLimit (.text text)).turn chat.conversation).1 = .ok ())
    (hs : chat.hasFailed = false)
    (hf : (chat.conversation.enter (.deliver chatLimit (.text text))).isFinished = false)
    {prompt : String} (hp : promptText ((lastQuestion told).or chat.pending) = .ok prompt) :
    (∃ rest, (chat.answer text).printed = chat.printed ++ chat.drawn told ++ rest) ∧
      (chat.answer text).status = .asking ((lastQuestion told).or chat.pending) := by
  have htake : chat.take (Turn.deliver patience (.text text)) = _ := take_eq htold hevents
  rw [hasFailed] at hs
  simp only [answer, htake, h, hasFailed, hs, Bool.false_eq_true, if_false]
  generalize hnew : Chat.mk _ _ _ _ _ _ _ = chat'
  obtain ⟨cs, hcs⟩ := exists_reportState chat'
  subst hnew
  rw [hcs]
  simp only [goOn, print, hf, Bool.false_eq_true, if_false, ask, hp]
  exact ⟨⟨cs ++ _, List.append_assoc _ _ _⟩, trivial⟩

/-- An answer that is admitted, and is no word to leave with, is taken. -/
theorem hear_of_answer {question : Option Payload} {typed : String}
    (hs : chat.status = .asking question) (ha : admits question (Text.stripped typed) = true)
    (he : isExit (Text.stripped typed) = false) :
    chat.hear (some typed) = chat.answer (Text.stripped typed) := by
  simp only [hear, hs, ha, he]
  rfl

end Chat

end Parley.Console
