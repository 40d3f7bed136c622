import Parley.Proofs.Conversation.Walk
import Parley.Proofs.Flow.Termination

/-!
# Calls terminate

A flow can keep a call busy for ever only through leaves that ask nothing. Where a rank of
the leaves goes down with each of them that hands over, every call of every conversation
over the flow comes to an end (`Conversation.calls_terminate`), and there is one number of
tasks that is enough for all of them.
-/

namespace Parley

open Element

namespace Conversation

variable {c c₀ : Conversation} {x : Entry}

/-- In a conversation over a built flow, let each leaf without an expectation that hands over
    in some state, once it is shown, hand over to a leaf of a smaller rank. Then a number of
    tasks is enough for every call after any requests: a call that is not refused at once

    * comes by that many tasks at most to a question, to the end of the session or to a
      failure, after which there is no task left;
    * comes to the same whenever it allows as many tasks or more. -/
theorem calls_terminate {b : Blueprint} {root id : String} {frontEnd : Option FrontEnd}
    {state : Value} (h : ofBlueprint b root frontEnd state id = .ok c₀) (rank : Address → Nat)
    (hrank : ∀ st a b, c₀.opened.HandsOver st a b → rank b < rank a) :
    ∃ limit, ∀ rs c x, c₀.Calls rs c x →
      (c.admits x = false → x.turn c = (.error (.protocol (c.refusal x)), c)) ∧
      (c.admits x = true → ∃ c' ts stop s, x.gate c = (.ok x.first, c') ∧
        x.first.Leads c'.scene ts (Stop.result stop) s ∧ ts.length ≤ limit ∧
        (∀ n, limit ≤ n → x.first.run n c'.scene = (stop.outcome, s)) ∧
        (limit ≤ x.limit → (x.turn c).1 = stop.outcome)) := by
  obtain ⟨hfresh, -⟩ := ofBlueprint_ok h
  have hw : c₀.opened.Wired := hfresh.inFlight_opened.fits.wired
  obtain ⟨n, hn⟩ := exists_bound List.length c₀.opened
  obtain ⟨k, hk⟩ := exists_bound rank c₀.opened
  refine ⟨tasksFor n (k + 1), fun rs c x hc => ⟨x.turn_of_refused, fun ha => ?_⟩⟩
  have he := hc.enacts hfresh ha
  obtain ⟨t, log, ht, hg, htaken⟩ := exists_isTaken (hc.isIntact (.inl hfresh)) ha he hn
  -- The leaf that the call comes to has a walk, as all leaves have.
  obtain ⟨w, hwalk, hlen⟩ : ∃ w, c₀.opened.Walks t (c.flowFor x).session.state w ∧
      w.leaves.length ≤ k + 1 := by
    cases ht with
    | start hb =>
      obtain ⟨l, hl⟩ := (hb.of_sameDesign he.design).exists_leaf
      obtain ⟨w, hwalk, hlen⟩ := exists_walks hw hrank hl (c.flowFor _).session.state
      exact ⟨w, hwalk, hlen.trans (Nat.succ_le_succ (hk _ (Option.isSome_of_mem hl)))⟩
    | deliver _ hl =>
      obtain ⟨l, hl, -⟩ := he.design.exists_leaf hl
      exact exists_walks_of_input hw hrank hk hl _ _
  obtain ⟨ts, s, hs, hts, -⟩ := htaken w hwalk
  have hlimit : ts.length ≤ tasksFor n (k + 1) := hts.le.trans (tasksFor_mono hlen)
  refine ⟨_, ts, w.stop, s, hg, hs.leads, hlimit, fun m hm => ?_, fun hx => ?_⟩
  · obtain ⟨m, rfl⟩ := Nat.exists_eq_add_of_le (hlimit.trans hm)
    rw [hs.leads.run_eq, w.stop.resume_eq]
  · obtain ⟨log', hturn⟩ := hs.turn_eq hg (hlimit.trans hx)
    rw [hturn]

end Conversation

/-- A leaf that greets, asks nothing and goes on to a flow of its own, in which a question is
    asked. -/
def Blueprint.greeting : Blueprint :=
  ⟨[.leaf "greet" { reply := fun _ _ => .ok (.decision (.goto (.text "chat") [])) }
      (some ⟨some (.text "Hello."), .identity⟩) none,
    .leaf "ask" { reply := fun _ _ => .ok .nothing } none (some ⟨some (.text "Well?"), .identity⟩),
    .manager "chat" ["ask"] "ask" none "",
    .manager "main" ["greet", "chat"] "greet" none ""]⟩

namespace Conversation

/-- The leaf that greets hands over to the one that asks, which hands over to none. -/
theorem greeting_terminates : ∃ c₀,
    ofBlueprint .greeting "main" (some .recording) (.record []) "c" = .ok c₀ ∧
    c₀.opened.HandsOver [] ["greet"] ["ask", "chat"] ∧
    (∀ st a b, c₀.opened.HandsOver st a b →
      (if b = ["greet"] then 1 else 0) < if a = ["greet"] then 1 else 0) ∧
    ∃ limit, ∀ rs c x, c₀.Calls rs c x →
      (c.admits x = false → x.turn c = (.error (.protocol (c.refusal x)), c)) ∧
      (c.admits x = true → ∃ c' ts stop s, x.gate c = (.ok x.first, c') ∧
        x.first.Leads c'.scene ts (Stop.result stop) s ∧ ts.length ≤ limit ∧
        (∀ n, limit ≤ n → x.first.run n c'.scene = (stop.outcome, s)) ∧
        (limit ≤ x.limit → (x.turn c).1 = stop.outcome)) := by
  obtain ⟨c₀, m, m', greet, ask, h, hopened, hm, hm', hdecider, hshown, hgreet, hask⟩ :
      ∃ c₀ m m' greet ask,
      ofBlueprint .greeting "main" (some .recording) (.record []) "c" = .ok c₀ ∧
      c₀.opened = .manager m [("greet", .leaf greet), ("chat", .manager m' [("ask", .leaf ask)])] ∧
      m.frontEnd = some .recording ∧ m'.root = "ask" ∧
      greet.decider = { reply := fun _ _ => .ok (.decision (.goto (.text "chat") [])) } ∧
      greet.output = some ⟨some (.text "Hello."), .identity⟩ ∧ greet.expectation = none ∧
      ask.expectation.isSome := ⟨_, _, _, _, _, rfl, rfl, rfl, rfl, rfl, rfl, rfl, rfl⟩
  have hpart : c₀.opened.part? ["greet"] = some (.leaf greet) := by rw [hopened]; rfl
  have hchat : c₀.opened.part? ["chat"] = some (.manager m' ["ask"]) := by rw [hopened]; rfl
  have hstart : c₀.opened.StartsAt ["chat"] ["ask", "chat"] := by
    refine .manager hchat ?_
    rw [hm', hopened]
    exact .leaf (l := ask) rfl
  have hdecision (st : Mapping) :
      greet.decider.decision (some .null) st = .ok (.goto (.text "chat") []) := by
    rw [hdecider]
    rfl
  -- The only leaf without an expectation goes to the child that starts at the other leaf.
  have hleaf {a : Address} {l : Leaf} (hl : c₀.opened.part? a = some (.leaf l))
      (hq : l.expectation = none) : a = ["greet"] := by
    rw [hopened] at hl
    rcases part?_manager_cases hl with ⟨rfl, hp⟩ | ⟨key, x, c, rfl, hx, hp⟩
    · cases hp
    · simp only [lookup_cons] at hx
      split at hx
      · subst key
        cases hx
        simp [(part?_leaf_eq_some hp).1]
      · split at hx
        · cases hx
          obtain ⟨c', rfl, hask'⟩ := leaf_only_child.1 hp
          cases (part?_leaf_eq_some hask').2
          simp [hq] at hask
        · cases hx
  have hpass (st : Mapping) : c₀.opened.Passes ["greet"] .null st
      ⟨[], [⟨greet.name, greet.decider.label, some .null, st⟩], st, .moved [] (.text "chat")⟩ :=
    .moved hpart (hdecision st) (.nothing rfl) rfl rfl
  have hrank : ∀ st a b, c₀.opened.HandsOver st a b →
      (if b = ["greet"] then 1 else 0) < if a = ["greet"] then 1 else 0 := by
    rintro st a b ⟨l, shown, x, hl, hq, hs, hx, p, key, hexit, -, hb⟩
    obtain rfl := hleaf hl hq
    obtain rfl := hx.unique (hpass st)
    cases hexit
    obtain rfl := hb.unique hstart
    decide
  refine ⟨c₀, h, ?_, hrank, calls_terminate h _ hrank⟩
  have htold : Shows (c₀.opened.sessionIn []) greet.output (.ok ()) [.output (.text "Hello.")] := by
    rw [hopened, hshown]
    exact .shown rfl (by simp [sessionIn, session, Manager.reception, hm, FrontEnd.recording])
  exact ⟨greet, _, _, hpart, hgreet, htold, hpass [], [], "chat", rfl, by rw [hchat]; rfl, hstart⟩

end Conversation

end Parley
