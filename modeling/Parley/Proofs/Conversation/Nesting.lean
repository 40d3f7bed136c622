import Parley.Proofs.Conversation.Lasting
import Parley.Proofs.Conversation.SharedState
import Parley.Proofs.Flow.Framing
import Parley.Proofs.Flow.Registration

/-!
# Nesting is transparent

A conversation over a flow, and one over a frame around this flow, stay in step
(`Conversation.InStep`): the same calls have the same results, the same is told and
the same is asked of the deciders, and what there is to see of the two conversations
is the same (`nesting_is_transparent`). The frame takes a few tasks more, so the calls
of the second conversation have to be allowed two tasks more than those of the first
one, and need not be allowed any more.
-/

namespace Parley

open Element

namespace Entry

/-- The entry with more tasks allowed. -/
def extend (n : Nat) : Entry → Entry
  | .start limit => .start (limit + n)
  | .deliver limit v => .deliver (limit + n) v

variable {x y : Entry}

@[simp] theorem first_extend (n : Nat) (x : Entry) : (x.extend n).first = x.first := by
  cases x <;> rfl

theorem limit_extend (n : Nat) (x : Entry) : (x.extend n).limit = x.limit + n := by
  cases x <;> simp [extend, limit] <;> omega

/-- What an entry brings can be told from its first task. -/
theorem inputs_eq_of_first (h : x.first = y.first) : x.inputs = y.inputs := by
  cases x <;> cases y <;> simp_all [first, inputs]

end Entry

/-- The manager of a name has no decider, or one that never decides to go elsewhere. -/
def Blueprint.Remains (b : Blueprint) (name : String) : Prop :=
  ∀ children root decider description,
    b.find? name = some (.manager name children root (some decider) description) →
    ∀ state d, decider.decision none state = .ok d → d.finishes = true

/-- So it is for the manager that is made from the definition. -/
theorem Blueprint.Remains.manager {b : Blueprint} {m : Manager} {keys : List String}
    (h : b.Remains m.name) (hm : (Part.manager m keys).IsFrom b) : m.Remains := by
  obtain ⟨children, description, hfind, -⟩ := hm
  intro state d hd
  rw [Manager.decision] at hd
  cases hdec : m.decider with
  | none =>
    rw [hdec] at hd
    cases hd
    rfl
  | some decider =>
    rw [hdec] at hd hfind
    exact h _ _ _ _ hfind state d hd

namespace Conversation

/-- No call is cut short. -/
def Completes (c : Conversation) (xs : List Entry) : Prop :=
  .error .endless ∉ c.results xs

/-- The second conversation cannot be told from the first one but for a key at the
    beginning of its active path, and of all paths in its flow. -/
structure InStep (key : String) (c d : Conversation) : Prop where
  events : d.scene.events = c.scene.events
  calls : d.scene.calls = c.scene.calls
  state : d.state = c.state
  turns : d.turns = c.turns
  isAwaiting : d.isAwaiting = c.isAwaiting
  isFinished : d.isFinished = c.isFinished
  leaves : ∀ b l, d.scene.top.part? b = some (.leaf l) ↔
    ∃ a, b = a ++ [key] ∧ c.scene.top.part? a = some (.leaf l)
  activePath : c.isFinished = false → d.activePath = key :: c.activePath

/-- The second conversation is over a frame around the flow of the first one. -/
structure IsFramed (name key : String) (c d : Conversation) : Prop where
  inStep : c.InStep key d
  started : d.started = c.started
  id : d.id = c.id
  frontEnd : d.frontEnd = c.frontEnd
  phase : c.Phase
  receptive : c.IsReceptive
  intact : d.IsIntact
  remains : c.scene.top.session.Remains
  flow : ∀ x y, x.first = y.first → c.admits x = true →
    d.flowFor y = (c.flowFor x).framed name key

variable {name key : String} {c d : Conversation} {x y : Entry} {r r' : Course}

namespace IsFramed

/-! ### One call -/

theorem accepts (h : c.IsFramed name key d) : d.accepts = c.accepts := by
  rw [Conversation.accepts, Conversation.accepts, h.started, h.inStep.isFinished,
    h.inStep.isAwaiting]

theorem admits (h : c.IsFramed name key d) (hxy : x.first = y.first) :
    d.admits y = c.admits x := by
  cases x with
  | start =>
    cases y with
    | start => exact congrArg not h.started
    | deliver => cases hxy
  | deliver =>
    cases y with
    | start => cases hxy
    | deliver => exact h.accepts

theorem refusal (h : c.IsFramed name key d) (hxy : x.first = y.first) :
    d.refusal y = c.refusal x := by
  cases x with
  | start =>
    cases y with
    | start => exact congrArg ProtocolFault.alreadyStarted h.id
    | deliver => cases hxy
  | deliver =>
    cases y with
    | start => cases hxy
    | deliver => rw [Conversation.refusal, Conversation.refusal, h.started, h.inStep.isFinished]

theorem heard (h : c.IsFramed name key d) (hxy : x.first = y.first) : d.heard y = c.heard x := by
  rw [Conversation.heard, Conversation.heard, h.frontEnd, Entry.inputs_eq_of_first hxy]

/-- What a call that is taken does in the flow, the same call does in the frame, with two
    more tasks at most. -/
theorem exists_framed (h : c.IsFramed name key d) (hxy : x.first = y.first)
    (ht : c.Takes x r) (ha : c.admits x = true) : ∃ n r',
      y.first.Runs n (d.flowFor y) r' ∧ x.limit ≤ n ∧ n ≤ x.limit + 2 ∧
      r.IsFramed name key r' := by
  obtain ⟨k, hk⟩ := x.exists_limit
  rw [h.flow x y hxy ha, ← hxy, hk]
  exact ht.begins.framed name key (hk ▸ ht.runs) (ht.isReceptive_flowFor h.receptive)
    ((sameDesign_flowFor c x).remains h.remains)

/-- A call is refused by both conversations, which leaves them as they are, or both
    perform it. -/
theorem turn_cases (h : c.IsFramed name key d) (hxy : x.first = y.first) :
    (∃ cause, cause ≠ .endless ∧ (x.turn c).1 = .error cause ∧ (y.turn d).1 = .error cause ∧
      c.enter x = c ∧ d.enter y = d) ∨
    ∃ r r' r'' n, c.Takes x r ∧ d.Performs y r'' ∧ y.first.Runs n (d.flowFor y) r' ∧
      x.limit ≤ n ∧ n ≤ x.limit + 2 ∧ r.IsFramed name key r' := by
  have hadmits := h.admits hxy
  cases ha : c.admits x with
  | false =>
    rw [ha] at hadmits
    refine .inl ⟨.protocol (c.refusal x), nofun, ?_, ?_, x.enter_of_refused ha,
      y.enter_of_refused hadmits⟩
    · rw [x.turn_of_refused ha]
    · rw [y.turn_of_refused hadmits, h.refusal hxy]
  | true =>
    rw [ha] at hadmits
    obtain ⟨r, ht⟩ := takes_of_admits h.phase ha
    obtain ⟨r'', hd⟩ := performs_of_admits h.intact hadmits
    obtain ⟨n, r', hr', hle, hle', hframed⟩ := h.exists_framed hxy ht ha
    exact .inr ⟨r, r', r'', n, ht, hd, hr', hle, hle', hframed⟩

/-- What there is to see after a call that is taken. -/
theorem inStep_enter (h : c.IsFramed name key d) (hxy : x.first = y.first) (ht : c.Performs x r)
    (hd : d.Performs y r') (hr : r.IsFramed name key r') : (c.enter x).InStep key (d.enter y) := by
  obtain ⟨log, hc⟩ := ht.enter
  obtain ⟨log', hd'⟩ := hd.enter
  obtain ⟨hstate, hawaiting, hfinished⟩ := hr.top.session
  refine ⟨?_, ?_, ?_, ?_, ?_, ?_, fun b l => ?_, fun hf => ?_⟩
  · rw [hc, hd', h.inStep.events, h.heard hxy, hr.events]
  · rw [hc, hd', h.inStep.calls, hr.calls]
  · rw [state_eq ht.wired, state_eq hd.wired, ht.top, hd.top, hstate]
  · rw [hc, hd', h.inStep.turns, Entry.inputs_eq_of_first hxy]
  · rw [isAwaiting_eq ht.wired, isAwaiting_eq hd.wired, ht.top, hd.top, hawaiting]
  · rw [isFinished_eq ht.wired, isFinished_eq hd.wired, ht.top, hd.top, hfinished]
  · rw [ht.top, hd.top]
    exact hr.top.leaf_iff
  · rw [isFinished_eq ht.wired, ht.top] at hf
    rw [activePath, activePath, ht.top, hd.top, hr.top.of_unfinished hf]
    exact activePath_framed

/-- After a call that is taken the second conversation is still over a frame. -/
theorem enter_of_performs (h : c.IsFramed name key d) (hxy : x.first = y.first)
    (ht : c.Takes x r) (hd : d.Performs y r') (hr : r.IsFramed name key r') :
    (c.enter x).IsFramed name key (d.enter y) := by
  obtain ⟨log, hc⟩ := ht.enter
  obtain ⟨log', hd'⟩ := hd.enter
  have hdesign : SameDesign (c.enter x).scene.top c.scene.top :=
    ht.top ▸ ht.runs.sameDesign.trans (sameDesign_flowFor c x)
  refine ⟨h.inStep_enter hxy ht.toPerforms hd hr, hd.started.trans ht.started.symm, ?_, ?_,
    ht.phase, h.receptive.enter h.phase x, h.intact.enter y, hdesign.remains h.remains,
    fun x' y' hxy' ha => ?_⟩
  · rw [hc, hd']
    exact h.id
  · rw [hc, hd']
    exact h.frontEnd
  · -- A later call is only taken before the end, when the frame still has its cursor.
    cases x' with
    | start => simp [Conversation.admits, ht.started] at ha
    | deliver limit v =>
      cases y' with
      | start => cases hxy'
      | deliver limit' v' =>
        obtain ⟨⟨-, hf⟩, -⟩ : ((c.enter x).started = true ∧ (c.enter x).isFinished = false) ∧
            (c.enter x).isAwaiting = true := by
          simpa [Conversation.admits, Conversation.accepts] using ha
        rw [isFinished_eq ht.wired, ht.top] at hf
        rw [flowFor, flowFor, ht.top, hd.top]
        exact hr.top.of_unfinished hf

/-- If neither call is cut short, they have the same result, and the second conversation
    is still over a frame. -/
theorem enter (h : c.IsFramed name key d) (hxy : x.first = y.first)
    (hx : (x.turn c).1 ≠ .error .endless) (hy : (y.turn d).1 ≠ .error .endless) :
    (y.turn d).1 = (x.turn c).1 ∧ (c.enter x).IsFramed name key (d.enter y) := by
  rcases h.turn_cases hxy with ⟨cause, -, hx', hy', hc, hd⟩ |
    ⟨r, r', r'', n, ht, hd, hr', -, -, hframed⟩
  · rw [hx', hy', hc, hd]
    exact ⟨rfl, h⟩
  · rw [ht.result] at hx ⊢
    rw [hd.result] at hy ⊢
    -- The run that the second conversation does is the one of the frame.
    have hx' : r'.result ≠ .error .endless := hframed.result ▸ hx
    obtain rfl := hd.runs.unique hr' hy hx'
    exact ⟨hframed.result, h.enter_of_performs hxy ht hd hframed⟩

/-- Two tasks more suffice for the second call. -/
theorem ne_endless_of_le (h : c.IsFramed name key d) (hxy : x.first = y.first)
    (hlimit : x.limit + 2 ≤ y.limit) (hx : (x.turn c).1 ≠ .error .endless) :
    (y.turn d).1 ≠ .error .endless := by
  rcases h.turn_cases hxy with ⟨cause, hcause, -, hy', -, -⟩ |
    ⟨r, r', r'', n, ht, hd, hr', -, hn, hframed⟩
  · rw [hy']
    exact fun h => hcause (Except.error.inj h)
  · rw [ht.result] at hx
    have hx' : r'.result ≠ .error .endless := hframed.result ▸ hx
    rw [hd.result, ← (hr'.of_le hx' (Nat.le_trans hn hlimit)).unique_of_length hd.runs]
    exact hx'

/-- The first call needs no more tasks than the second one. -/
theorem ne_endless_of_ge (h : c.IsFramed name key d) (hxy : x.first = y.first)
    (hlimit : y.limit ≤ x.limit) (hy : (y.turn d).1 ≠ .error .endless) :
    (x.turn c).1 ≠ .error .endless := by
  rcases h.turn_cases hxy with ⟨cause, hcause, hx', -, -, -⟩ |
    ⟨r, r', r'', n, ht, hd, hr', hn, -, hframed⟩
  · rw [hx']
    exact fun h => hcause (Except.error.inj h)
  · rw [ht.result]
    rw [hd.result] at hy
    intro hx
    exact hy (hr'.endless_of_le (hframed.result.trans hx) (Nat.le_trans hlimit hn) hd.runs)

/-! ### Histories -/

/-- Calls that are not cut short keep the conversations in step. -/
theorem foldl (h : c.IsFramed name key d) {xs ys : List Entry}
    (hxy : List.Forall₂ (fun x y => x.first = y.first) xs ys)
    (hx : c.Completes xs) (hy : d.Completes ys) :
    d.results ys = c.results xs ∧
      (xs.foldl Conversation.enter c).IsFramed name key (ys.foldl Conversation.enter d) := by
  induction hxy generalizing c d with
  | nil => exact ⟨rfl, h⟩
  | cons hfirst _ ih =>
    rw [Completes, results, List.mem_cons, not_or] at hx hy
    obtain ⟨hresult, hnext⟩ := h.enter hfirst (Ne.symm hx.1) (Ne.symm hy.1)
    obtain ⟨hresults, hlast⟩ := ih hnext hx.2 hy.2
    rw [results, results, hresult, hresults]
    exact ⟨rfl, hlast⟩

theorem completes_extend (h : c.IsFramed name key d) {xs : List Entry}
    (hx : c.Completes xs) : d.Completes (xs.map (Entry.extend 2)) := by
  induction xs generalizing c d with
  | nil => exact List.not_mem_nil
  | cons x xs ih =>
    rw [Completes, results, List.mem_cons, not_or] at hx
    have hfirst : x.first = (x.extend 2).first := (x.first_extend 2).symm
    have hy := h.ne_endless_of_le hfirst (Nat.le_of_eq (x.limit_extend 2).symm) (Ne.symm hx.1)
    rw [List.map_cons, Completes, results, List.mem_cons, not_or]
    exact ⟨Ne.symm hy, ih (h.enter hfirst (Ne.symm hx.1) hy).2 hx.2⟩

theorem completes_of_frame (h : c.IsFramed name key d) {xs : List Entry}
    (hy : d.Completes xs) : c.Completes xs := by
  induction xs generalizing c d with
  | nil => exact List.not_mem_nil
  | cons x xs ih =>
    rw [Completes, results, List.mem_cons, not_or] at hy
    have hx := h.ne_endless_of_ge rfl (Nat.le_refl x.limit) (Ne.symm hy.1)
    rw [Completes, results, List.mem_cons, not_or]
    exact ⟨Ne.symm hx, ih (h.enter rfl hx (Ne.symm hy.1)).2 hy.2⟩

end IsFramed

/-! ### New conversations -/

variable {b b' : Blueprint} {frame flow description : String} {state : Value}

/-- Over a valid flow that never goes elsewhere and over a frame around it there are
    conversations that are in step. -/
theorem exists_framed (h : b.register (.manager frame [flow] flow none description) = .ok b')
    (hv : b.validate flow = .ok ()) (hstays : b.Remains flow) {initial : Mapping}
    (hs : Mapping.ofValue state = .ok initial) (id : String) : ∃ c d,
      ofBlueprint b flow (some .recording) state id = .ok c ∧
      ofBlueprint b' frame (some .recording) state id = .ok d ∧ c.IsFramed frame flow d := by
  obtain ⟨m, cs, he, hbuild, hbuild'⟩ := Blueprint.build_frame h hv (some .recording)
  obtain ⟨hnew, hfrom, rfl⟩ := Blueprint.unfold_ok he
  have hc : ofBlueprint b m.name (some .recording) state id = .ok _ :=
    ofBlueprint_eq_ok_iff.2 ⟨_, _, hbuild, hs, rfl⟩
  have hd : ofBlueprint b' frame (some .recording) state id = .ok _ :=
    ofBlueprint_eq_ok_iff.2 ⟨_, _, hbuild', hs, rfl⟩
  obtain ⟨hfresh, -⟩ := ofBlueprint_ok hc
  obtain ⟨hfresh', -⟩ := ofBlueprint_ok hd
  refine ⟨_, _, hc, hd, ⟨rfl, rfl, ?_, rfl, ?_, ?_, fun a l => ?_, fun _ => ?_⟩, rfl, rfl, rfl,
    .fresh hfresh, ⟨_, rfl, fun _ => rfl⟩, .inl hfresh', ?_, fun x y hxy ha => ?_⟩
  · rw [state_ofBlueprint hc, state_ofBlueprint hd]
  · rw [hfresh.isAwaiting, hfresh'.isAwaiting]
  · rw [hfresh.isFinished, hfresh'.isFinished]
  · exact leaf_frame (e := .manager { m with frontEnd := some .recording } cs) (g := fun _ => m)
  · exact activePath_only_child rfl
  · exact hstays.manager (hfrom.parts (a := []) rfl)
  · cases x with
    | deliver => cases ha
    | start =>
      cases y with
      | deliver => cases hxy
      | start =>
        exact attach_frame (hnew (a := []) rfl).2.2.1 (Blueprint.unfold_isBare he [] _ rfl)
          (some .recording) initial

/-- Let a flow be valid, and let it have no decider, or one that never decides to go
    elsewhere. Let a frame be defined around it, under a fresh name, without a decider.
    Then there is a conversation over the flow and one over the frame, under the same id,
    such that:

    * if the same is called of both, the results are the same, and then so are the
      events, the consultations with their inputs and states, the state, the turns, the
      flags and the leaves with their statuses; and the active path begins with the flow
      and goes on as in the first conversation, unless the session is over;
    * for that the calls may differ in how many tasks they allow, as long as none is cut
      short; two tasks more in each call are enough for the second conversation, and the
      first one needs no more than the second one. -/
theorem nesting_is_transparent
    (h : b.register (.manager frame [flow] flow none description) = .ok b')
    (hv : b.validate flow = .ok ()) (hstays : b.Remains flow) {initial : Mapping}
    (hs : Mapping.ofValue state = .ok initial) (id : String) : ∃ c d,
      ofBlueprint b flow (some .recording) state id = .ok c ∧
      ofBlueprint b' frame (some .recording) state id = .ok d ∧
      (∀ xs ys, List.Forall₂ (fun x y => x.first = y.first) xs ys →
        c.Completes xs → d.Completes ys → d.results ys = c.results xs ∧
          (xs.foldl enter c).InStep flow (ys.foldl enter d)) ∧
      (∀ xs, c.Completes xs → d.Completes (xs.map (Entry.extend 2))) ∧
      ∀ xs, d.Completes xs → c.Completes xs := by
  obtain ⟨c, d, hc, hd, hframed⟩ := exists_framed h hv hstays hs id
  refine ⟨c, d, hc, hd, fun xs ys hxy hx hy => ?_, fun _ => hframed.completes_extend,
    fun _ => hframed.completes_of_frame⟩
  obtain ⟨hresults, hlast⟩ := hframed.foldl hxy hx hy
  exact ⟨hresults, hlast.inStep⟩

end Conversation

/-- A manager over one leaf, which asks a question. When it is over, its decider says so
    in the state. -/
def Blueprint.sealing : Blueprint :=
  ⟨[.leaf "ask" { reply := fun _ _ => .ok .nothing } none (some ⟨some (.text "Well?"), .identity⟩),
    .manager "main" ["ask"] "ask"
      (some { reply := fun _ _ => .ok (.decision (.finish [(.text "over", .bool true)])) }) ""]⟩

namespace Conversation

/-- A frame around `sealing` makes no difference to an answer. -/
theorem nesting_of_sealing : ∃ b' c d,
    Blueprint.sealing.register (.manager "frame" ["main"] "main" none "") = .ok b' ∧
      ofBlueprint .sealing "main" (some .recording) (.record []) "c" = .ok c ∧
      ofBlueprint b' "frame" (some .recording) (.record []) "c" = .ok d ∧
      d.results [.start 7, .deliver 7 (.text "Fine.")] = [.ok (), .ok ()] ∧
      ([Entry.start 5, .deliver 5 (.text "Fine.")].foldl enter c).InStep "main"
        ([Entry.start 7, .deliver 7 (.text "Fine.")].foldl enter d) := by
  have hstays : Blueprint.sealing.Remains "main" := by
    intro children root decider description hfind state d hd
    cases hfind
    cases hd
    rfl
  have h : Blueprint.sealing.register (.manager "frame" ["main"] "main" none "") = .ok _ := rfl
  have hempty : Mapping.ofValue (.record []) = .ok [] := rfl
  obtain ⟨c, d, hc, hd, hsame, hmore, -⟩ := nesting_is_transparent h rfl hstays hempty "c"
  have hx : c.results [.start 5, .deliver 5 (.text "Fine.")] = [.ok (), .ok ()] := by
    cases hc
    rfl
  have hcompletes : c.Completes [.start 5, .deliver 5 (.text "Fine.")] := by
    simp [Completes, hx]
  obtain ⟨hresults, hlast⟩ := hsame [.start 5, .deliver 5 (.text "Fine.")]
    [.start 7, .deliver 7 (.text "Fine.")] (.cons rfl (.cons rfl .nil)) hcompletes
    (hmore _ hcompletes)
  exact ⟨_, c, d, h, hc, hd, hresults.trans hx, hlast⟩

end Conversation

end Parley
