import SwaylockAuthd.EventFrames
import SwaylockAuthd.Lists
import SwaylockAuthd.Polling

/-!
# What is selected is what was offered

A list goes from authd to the main process, the cursor moves in it, and the id of the entry
under the cursor goes back.

* `gdmEvent_list`, `strdupItem_gdmEntry`: what is passed on of an entry.
* `browse_run`: the callbacks between two messages of the child move the cursor.
* `selectedId_browsed`: the id under the cursor is that of the entry of the event.
* `selection_fidelity`: so that id reaches authd, in an event of the right kind.
-/

namespace SwaylockAuthd

open Transition

variable (parse : CString → Option Json) (print : Json → Option CString)

/-! ## The list in the child -/

/-- The event that carries a list. -/
def listEvent (isBroker : Bool) : String :=
  if isBroker then "brokersReceived" else "authModesReceived"

/-- The member of the event with the entries. -/
def listInfos (isBroker : Bool) : String := if isBroker then "brokersInfos" else "authModes"

/-- The entries of an event. -/
def eventEntries (isBroker : Bool) (event : Option Json) : List Json :=
  ((item event (listInfos isBroker)).map Json.children).getD []

/-- The id of an entry. -/
def entryId (b : Json) : Option CString := stringOf (b.getObjectItemCaseSensitive "id")

/-- What is passed on of a list. -/
def passedOn (isBroker : Bool) (event : Option Json) : Json :=
  gdmEntries (listText isBroker) (item event (listInfos isBroker))

theorem passedOn_eq (isBroker : Bool) (event : Option Json) :
    passedOn isBroker event =
      .array ((eventEntries isBroker event).map (gdmEntry (listText isBroker))) := rfl

/-- The message an event with a list is passed on as. -/
theorem gdmEvent_list {isBroker : Bool} {event : Option Json}
    (h : stringOf (item event "type") = some (ascii (listEvent isBroker))) :
    gdmEvent print event =
      writeJson print (listType isBroker) (some (passedOn isBroker event)) := by
  rw [gdmEvent, h, Option.getD_some]
  cases isBroker
  · rw [if_neg (by decide), if_pos (by decide)]
    rfl
  · rw [if_pos (by decide)]
    rfl

theorem nul_notMem_stringOf {j : Option Json} {v : CString} (h : stringOf j = some v) :
    (0 : UInt8) ∉ v := by
  obtain ⟨w, -, rfl⟩ := Option.map_eq_some_iff.mp h
  exact nul_notMem_cstr w

/-- **What is kept of an entry** that is passed on: its id, if it is a string. -/
theorem strdupItem_gdmEntry (isBroker : Bool) (env : Env) (n : Nat) (b : Json) :
    strdupItem env n (gdmEntry (listText isBroker) b) "id" =
      if env.string n then entryId b else none := by
  have hitem : (gdmEntry (listText isBroker) b).stringItem "id" = entryId b := by
    unfold gdmEntry entryId
    generalize stringOf (b.getObjectItemCaseSensitive "id") = id
    generalize stringOf (b.getObjectItemCaseSensitive (listText isBroker)) = text
    cases isBroker <;> cases id <;> cases text <;> rfl
  rw [strdupItem, hitem]
  split
  · unfold entryId
    cases hid : stringOf (b.getObjectItemCaseSensitive "id") with
    | none => rfl
    | some v => rw [Option.map_some, cstr_eq_self (nul_notMem_stringOf hid)]
  · rfl

/-! ## The list in the main process -/

/-- The id of the entry at a position, if there is memory for all that is made of it. -/
def offeredId (isBroker : Bool) (env : Env) (event : Option Json) (k : Nat) : Option CString :=
  if env.json ∧ env.array ∧ env.string (2 * k) then
    ((eventEntries isBroker event)[k]?).bind entryId
  else none

/-- What is relied on for a list: a parser reads what has been printed, and a text is longer than
the strings in it. -/
structure ListText (isBroker : Bool) (event : Option Json) : Prop where
  parse : ∀ text, cJSONPrint print (some (passedOn isBroker event)) = some text →
    parse text = some (passedOn isBroker event)
  long : ∀ text, cJSONPrint print (some (passedOn isBroker event)) = some text →
    ∀ b ∈ eventEntries isBroker event, ∀ id, entryId b = some id → id.length < text.length

/-- **The frame that `comm_in` has consumed** is the one that was written. -/
theorem commIn_consumed {env : Env} {s t : SwaylockState} {p : Pipe} {f : Frame}
    {rest : List UInt8} (hdata : p.data = f.bytes ++ rest)
    (h : commIn parse env p.revents s p = .running t { p with data := rest }) :
    t = commInFrame parse env s f ∧ f.Fits := by
  have hin : p.revents.pollin = true := by simp [Pipe.revents, hdata, Frame.bytes]
  rcases commIn_cases parse env s p hin rfl with ⟨e, -⟩ | ⟨e, -⟩ | ⟨g, r, head, -, e⟩
  · rw [e] at h
    cases h
  · rw [e] at h
    cases h
  · rw [e] at h
    obtain ⟨ht, hp⟩ := CommIn.running_inj h
    obtain rfl : r = rest := congrArg Pipe.data hp
    rw [hdata] at head
    obtain ⟨rfl, hfits⟩ := eq_of_head_bytes head
    exact ⟨ht.symm, hfits⟩

/-! ## The cursor -/

namespace AuthdList

/-- A step of the cursor. -/
def move (l : AuthdList) : Viewport.Move → AuthdList
  | .up => l.up
  | .down => l.down

theorem move_eq {l : AuthdList} {k : Nat} (hk : l.sel = k) (hle : k ≤ l.num - 1)
    (m : Viewport.Move) : l.move m = { l with sel := Viewport.move l.num k m } := by
  obtain ⟨entries, num, sel⟩ := l
  dsimp only at hk hle
  subst hk
  cases m with
  | up =>
    show (if (0 : Int) < k then _ else _) = _
    split
    · simp only [AuthdList.mk.injEq, Viewport.move, true_and]
      omega
    · simp only [AuthdList.mk.injEq, Viewport.move, true_and]
      omega
  | down =>
    show (if (k : Int) < num - 1 then _ else _) = _
    split
    · simp only [AuthdList.mk.injEq, Viewport.move, true_and]
      omega
    · simp only [AuthdList.mk.injEq, Viewport.move, true_and]
      omega

/-- **The cursor of the code is a cursor** in a list of `num` entries. -/
theorem foldl_move {l : AuthdList} {k : Nat} (hk : l.sel = k) (hle : k ≤ l.num - 1)
    (ms : List Viewport.Move) :
    ms.foldl move l = { l with sel := Viewport.moves l.num k ms } := by
  induction ms generalizing l k with
  | nil =>
    show l = { l with sel := (k : Int) }
    rw [← hk]
  | cons m ms ih =>
    have hmove : Viewport.move l.num k m ≤ l.num - 1 := by
      cases m with
      | up => exact (Nat.sub_le k 1).trans hle
      | down => exact min_le_right _ _
    rw [List.foldl_cons, move_eq hk hle m]
    exact ih (l := { l with sel := Viewport.move l.num k m }) rfl hmove

end AuthdList

/-- The keys that move the cursor, and every callback that is no key and no message. -/
def MainEvent.Browses : MainEvent → Prop
  | .key _ keysym _ => keysym = .Up ∨ keysym = .Down
  | .message .. => False
  | _ => True

/-- The step of the cursor. -/
def MainEvent.move : MainEvent → Option Viewport.Move
  | .key _ .Up _ => some .up
  | .key _ .Down _ => some .down
  | _ => none

variable {parse} {print}

/-- Whether the stages are active, and the stage. -/
def shownStage (s : SwaylockState) : Bool × AuthdStage := (s.authdActive, s.authdStage)

/-- Only a message changes the stage. -/
theorem shownStage_mainStep {a : MainEvent} {m n : MainProcess} (h : mainStep parse a m = some n)
    (ha : a.Browses) : shownStage n.state = shownStage m.state := by
  cases mainStep_cases parse h with
  | key _ step =>
    cases step with
    | move hn => exact hn.keep shownStage (by intros; rfl)
    | send hn => exact hn.keep shownStage (by intros; rfl)
    | edit a codepoint => exact (edits_edit _ _ codepoint a).keep shownStage (by intros; rfl)
    | fail => rfl
    | submit => rfl
  | modifiers hm => exact hm.keep shownStage (by intros; rfl)
  | @timer env now addr =>
    rcases visitTimer_cases env now addr m.state with hv | hv | ⟨callback, t, -, rfl, hv⟩
    · rw [hv]
    · rw [hv]
      rfl
    · rw [hv]
      cases callback <;> rfl
  | message => exact ha.elim
  | childGone => rfl

theorem shows_mainStep (isBroker : Bool) {a : MainEvent} {m n : MainProcess}
    (h : mainStep parse a m = some n) (ha : a.Browses) :
    Shows isBroker n.state ↔ Shows isBroker m.state := by
  have hstage := shownStage_mainStep h ha
  unfold Shows
  rw [show n.state.authdActive = m.state.authdActive from congrArg Prod.fst hstage,
    show n.state.authdStage = m.state.authdStage from congrArg Prod.snd hstage]

/-- In a selection stage the first block has the keys. -/
theorem authdHandleKey_shows {isBroker : Bool} {s : SwaylockState} (h : Shows isBroker s)
    (env : Env) (p : Pipe) (keysym : Keysym) :
    authdHandleKey env s p keysym = selectionKey isBroker env s p keysym := by
  rw [authdHandleKey, if_pos h.1, h.2]
  cases isBroker <;> rfl

/-- A callback that browses moves the cursor, or leaves the list alone. -/
theorem browse_step {isBroker : Bool} {a : MainEvent} {m n : MainProcess}
    (hs : Shows isBroker m.state) (ha : a.Browses) (h : mainStep parse a m = some n) :
    authdList isBroker n.state =
      a.move.toList.foldl AuthdList.move (authdList isBroker m.state) := by
  have hlist := list_mainStep parse isBroker h
  cases a with
  | key env keysym codepoint =>
    rw [mainStep, swaylockHandleKey, authdHandleKey_shows hs] at h
    rcases ha with rfl | rfl
    · cases h
      exact authdList_selectUp isBroker m.state
    · cases h
      exact authdList_selectDown isBroker m.state
  | message => exact ha.elim
  | modifiers =>
    generalize authdList isBroker n.state = l at hlist ⊢
    cases hlist
    rfl
  | timer =>
    generalize authdList isBroker n.state = l at hlist ⊢
    cases hlist
    rfl
  | childGone =>
    generalize authdList isBroker n.state = l at hlist ⊢
    cases hlist
    rfl

/-- **The callbacks between two messages** move the cursor as the keys say. -/
theorem browse_run (isBroker : Bool) {as : List MainEvent} {m n : MainProcess}
    (ha : ∀ a ∈ as, a.Browses) (h : run (mainStep parse) as m = some n) :
    (Shows isBroker n.state ↔ Shows isBroker m.state) ∧
      (Shows isBroker m.state → authdList isBroker n.state =
        (as.filterMap MainEvent.move).foldl AuthdList.move (authdList isBroker m.state)) := by
  induction as generalizing m with
  | nil =>
    obtain rfl : m = n := by simpa using h
    exact ⟨Iff.rfl, fun _ => rfl⟩
  | cons a as ih =>
    obtain ⟨u, hu, hrest⟩ := run_cons.mp h
    have hbrowse := ha a List.mem_cons_self
    have hshows := shows_mainStep isBroker hu hbrowse
    obtain ⟨hiff, hlist⟩ := ih (fun b hb => ha b (List.mem_cons_of_mem a hb)) hrest
    refine ⟨hiff.trans hshows, fun hm => ?_⟩
    rw [hlist (hshows.mpr hm), browse_step hm hbrowse hu, ← List.foldl_append, List.filterMap_cons]
    cases a.move <;> rfl

/-! ## What is under the cursor -/

/-- The list the main process makes of an event. -/
def offeredList (isBroker : Bool) (env : Env) (event : Option Json) : AuthdList :=
  receivedList isBroker env
    ((eventEntries isBroker event).map (gdmEntry (listText isBroker)))

/-- The list after the message that carries it. -/
theorem authdList_offered {isBroker : Bool} {event : Option Json} {text : CString}
    (L : ListText parse print isBroker event)
    (ht : cJSONPrint print (some (passedOn isBroker event)) = some text) (env : Env)
    (s : SwaylockState) :
    (env.json = true ∧ env.array = true ∧ text ≠ [] ∧
      authdList isBroker (commInFrame parse env s ⟨listType isBroker, text⟩) =
        offeredList isBroker env event) ∨
    ((env.json = false ∨ env.array = false ∨ text = []) ∧
      authdList isBroker (commInFrame parse env s ⟨listType isBroker, text⟩) =
        { num := 0, sel := 0 }) := by
  have hnul : (0 : UInt8) ∉ text := by
    obtain ⟨w, -, rfl⟩ := Option.map_eq_some_iff.mp ht
    exact nul_notMem_cstr w
  have hparse : env.json = true → text ≠ [] →
      cJSONParse parse env (Frame.buffer ⟨listType isBroker, text⟩) =
        some (passedOn isBroker event) := by
    intro hjson hne
    rw [cJSONParse, if_pos hjson, Frame.buffer, if_neg hne, Option.bind_some,
      cstr_append_nul, cstr_eq_self hnul, L.parse text ht]
  rw [commInFrame_list parse rfl]
  rcases commInList_cases parse isBroker env s (Frame.buffer ⟨listType isBroker, text⟩) with
    ⟨items, hitems, harray, hl⟩ | ⟨hnone, hl⟩
  · have hjson : env.json = true := by
      by_contra hn
      rw [cJSONParse, if_neg hn] at hitems
      cases hitems
    have hne : text ≠ [] := by
      intro hn
      rw [cJSONParse, if_pos hjson, Frame.buffer, if_pos hn] at hitems
      cases hitems
    rw [hparse hjson hne, passedOn_eq, Option.some.injEq, Json.array.injEq] at hitems
    refine Or.inl ⟨hjson, harray, hne, ?_⟩
    rw [hl, ← hitems]
    rfl
  · refine Or.inr ⟨?_, hl⟩
    by_contra hn
    simp only [not_or, Bool.not_eq_false] at hn
    obtain ⟨hjson, harray, hne⟩ := hn
    rw [hnone _ ((hparse hjson hne).trans (congrArg some (passedOn_eq isBroker event)))] at harray
    cases harray

/-- The entry at a position of that list. -/
theorem offeredList_id {isBroker : Bool} {env : Env} {event : Option Json} {k : Nat}
    (hk : k < authdListMax) :
    (((offeredList isBroker env event).entries.getD [])[k]?).bind AuthdEntry.id =
      if env.string (2 * k) then ((eventEntries isBroker event)[k]?).bind entryId else none := by
  unfold offeredList receivedList
  rw [Option.getD_some, List.getElem?_map, List.getElem?_zipIdx, List.getElem?_take_of_lt hk,
    List.getElem?_map]
  cases (eventEntries isBroker event)[k]? with
  | none => cases env.string (2 * k) <;> rfl
  | some b =>
    show strdupItem env (2 * (0 + k)) (gdmEntry (listText isBroker) b) "id" = _
    rw [Nat.zero_add, strdupItem_gdmEntry]
    rfl

/-- **The id under the cursor** is that of the entry of the event the keys lead to. -/
theorem selectedId_browsed {isBroker : Bool} {event : Option Json} {text : CString}
    (L : ListText parse print isBroker event)
    (ht : cJSONPrint print (some (passedOn isBroker event)) = some text) {env : Env}
    {s t : SwaylockState} (ms : List Viewport.Move)
    (hlist : authdList isBroker t = ms.foldl AuthdList.move
      (authdList isBroker (commInFrame parse env s ⟨listType isBroker, text⟩))) :
    selectedId isBroker t = offeredId isBroker env event
      (Viewport.moves (min (eventEntries isBroker event).length 256) 0 ms) := by
  rw [selectedId_eq, hlist]
  rcases authdList_offered L ht env s with ⟨hjson, harray, -, hl⟩ | ⟨hwhy, hl⟩
  · have hnum : (offeredList isBroker env event).num =
        min (eventEntries isBroker event).length 256 := by
      show (List.take authdListMax _).length = _
      rw [List.length_take, List.length_map, min_comm]
      rfl
    rw [hl, AuthdList.foldl_move (k := 0) rfl (Nat.zero_le _), hnum]
    generalize hk : Viewport.moves (min (eventEntries isBroker event).length 256) 0 ms = k
    unfold AuthdList.keyIndex offeredId
    by_cases hlt : k < min (eventEntries isBroker event).length 256
    · rw [if_pos ⟨Int.natCast_nonneg k, Int.ofNat_lt.mpr hlt⟩, Option.bind_some,
        Int.toNat_natCast, offeredList_id (lt_of_lt_of_le hlt (min_le_right _ _))]
      simp only [hjson, harray, true_and]
    · have hzero : (eventEntries isBroker event).length = 0 := by
        by_contra hne
        exact hlt (hk ▸ Viewport.moves_lt (by omega) ms)
      have hnone : (eventEntries isBroker event)[k]? = none :=
        List.getElem?_eq_none (by omega)
      rw [if_neg (fun h => hlt (Int.ofNat_lt.mp h.2)), hnone]
      split <;> rfl
  · rw [hl, AuthdList.foldl_move (k := 0) rfl (Nat.zero_le _)]
    unfold AuthdList.keyIndex offeredId
    rw [if_neg (fun h => by simp at h; omega), Option.bind_none]
    split
    · rename_i hmem
      rcases hwhy with hw | hw | hw
      · rw [hw] at hmem
        cases hmem.1
      · rw [hw] at hmem
        cases hmem.2.1
      · -- no id is shorter than an empty text
        cases hb : (eventEntries isBroker event)[Viewport.moves
            (min (eventEntries isBroker event).length 256) 0 ms]? with
        | none => rfl
        | some b =>
          cases hid : entryId b with
          | none => simp [hid]
          | some id =>
            have hlong := L.long text ht b (List.mem_of_getElem? hb) id hid
            rw [hw] at hlong
            exact absurd hlong (Nat.not_lt_zero _)
    · rfl

/-! ## The way back -/

/-- The event of a selection. -/
def selectionEvent (isBroker : Bool) (id : CString) : Json :=
  if isBroker then
    .object [field "type" (str "brokerSelected"),
      field "brokerSelected" (.object [(ascii "brokerId", .string id)])]
  else
    .object [field "type" (str "authModeSelected"),
      field "authModeSelected" (.object [(ascii "authModeId", .string id)])]

/-- The frame of a selection. -/
def selectionFrame (isBroker : Bool) (id : CString) : Frame :=
  ⟨selectionType isBroker, id ++ [0]⟩

theorem event_selectionFrame (isBroker : Bool) {id : CString} (h : (0 : UInt8) ∉ id) :
    (selectionFrame isBroker id).event = some (selectionEvent isBroker id) := by
  have hbuf : (selectionFrame isBroker id).buffer = some (id ++ [0, 0]) := by
    simp [Frame.buffer, selectionFrame]
  rw [Frame.event, hbuf, gdmTranslate, Option.getD_some, cstr_append_nul, cstr_eq_self h]
  cases isBroker <;> rfl

variable (print)

/-- A round of a `poll` message that reads this frame adds this event to its answer. -/
def Translates (f : Frame) (evt : Json) : Prop :=
  ∀ (env : Env) (c : PamChild) (p : Pipe) (todo : List PamMessage) (rest : List UInt8)
    (r : Reaction PamChild), p.data = f.bytes ++ rest → c.conv.pending.length < 64 →
      env.poll = true → .error ∉ env.reads → env.payload = true →
      pollStep print env c p todo = some r →
        r.child = { c with conv := { c.conv with pending := c.conv.pending ++ [evt] } } ∧
          r.toChild = { p with data := rest }

theorem translates_of_event {f : Frame} {evt : Json} (hfits : f.Fits) (htype : f.type ≠ 0)
    (h : f.event = some evt) : Translates print f evt := by
  intro env c p todo rest r hdata hroom hpoll hreads hmem hstep
  have hne : p.data ≠ [] := by simp [hdata, Frame.bytes]
  have head : frameHead p.data = .item f rest := by
    rw [hdata]
    exact (writes_bytes hfits).head_append rest
  obtain ⟨-, x, hx, rfl⟩ := (pollStep_cases print hstep).resolve_right fun hn =>
    hn.1 ⟨hroom, hpoll, Or.inl hne⟩
  cases commRead_spec hx with
  | @frame g rest' cs hg =>
    rw [head] at hg
    cases hg
    rw [gdmPollRead, if_neg (toNat_type_pos htype)]
    rw [Frame.event] at h
    rw [h]
    exact ⟨rfl, rfl⟩
  | tooLarge hg => rw [head] at hg; cases hg
  | ended hg => rw [head] at hg; cases hg
  | failed why =>
    rcases why with hw | hw
    · exact absurd hw hreads
    · rw [hmem] at hw
      cases hw

variable {print}

/-- What `Return` does with the id under the cursor. -/
theorem handleKey_return {isBroker : Bool} {s : SwaylockState} (hs : Shows isBroker s)
    {keysym : Keysym} (hkey : keysym = .Return ∨ keysym = .KP_Enter) (env : Env) (p : Pipe)
    (codepoint : UInt32) :
    swaylockHandleKey env s p keysym codepoint =
      (selectedId isBroker s).elim (.running s p) fun id =>
        sendKey env s p (selectionFrame isBroker id).type
          (some (selectionFrame isBroker id).payload)
          (selectionFrame isBroker id).payload.length := by
  rw [swaylockHandleKey, authdHandleKey_shows hs, selectionKey_return isBroker env s p hkey]
  cases selectedId isBroker s with
  | none => rfl
  | some id =>
    have hlen : (selectionFrame isBroker id).payload.length = id.length + 1 := by
      simp [selectionFrame]
    simp only [Option.elim_some, hlen]
    rfl

/-- A key sends this frame, and a `poll` message that reads it answers with this event. -/
structure Selects (print : Json → Option CString) (m : MainProcess) (keysym : Keysym) (f : Frame)
    (evt : Json) : Prop where
  sends : ∀ env codepoint, swaylockHandleKey env m.state m.toChild keysym codepoint =
    sendKey env m.state m.toChild f.type (some f.payload) f.payload.length
  bytes : commWriteBytes f.type (some f.payload) f.payload.length = f.bytes
  translated : Translates print f evt

theorem selects_selectionFrame {isBroker : Bool} {m : MainProcess} {keysym : Keysym} {v : CString}
    (hs : Shows isBroker m.state) (hkey : keysym = .Return ∨ keysym = .KP_Enter)
    (hv : selectedId isBroker m.state = some v) (hnul : (0 : UInt8) ∉ v)
    (hlen : v.length + 1 ≤ COMM_MAX_PAYLOAD) :
    Selects print m keysym (selectionFrame isBroker v) (selectionEvent isBroker v) := by
  refine ⟨fun env codepoint => ?_, ?_, ?_⟩
  · rw [handleKey_return hs hkey, hv]
    rfl
  · simp only [commWriteBytes, Frame.bytes, Option.getD_some, List.take_length]
  · refine translates_of_event print ?_ ?_ (event_selectionFrame isBroker hnul)
    · show (v ++ [0]).length ≤ COMM_MAX_PAYLOAD
      rw [List.length_append]
      exact hlen
    · cases isBroker
      · exact (by decide : COMM_MSG_AUTH_MODE_SEL ≠ 0)
      · exact (by decide : COMM_MSG_BROKER_SEL ≠ 0)

/-- **What is selected is what was offered.** -/
theorem selection_fidelity {username : CString} {env₀ env : Env} {st : ConvState}
    {json out rest : List UInt8} {root response : Json} {s s₁ : SwaylockState} {p q : Pipe}
    {as : List MainEvent} {m : MainProcess} (isBroker : Bool)
    (hroot : cJSONParse parse env₀ (some json) = some root)
    (htype : stringOf (item (root.getObjectItemCaseSensitive "event") "type") =
      some (ascii (listEvent isBroker)))
    (hlist : ListText parse print isBroker (root.getObjectItemCaseSensitive "event"))
    (hgdm : handleGdmJson parse print username env₀ st json = .answer out response)
    (hout : out ≠ []) (hdata : p.data = out ++ rest)
    (hread : commIn parse env p.revents s p = .running s₁ { p with data := rest })
    (hrun : run (mainStep parse) as ⟨s₁, q⟩ = some m) (hkeys : ∀ a ∈ as, a.Browses) :
    (env.array = true → Shows isBroker m.state) ∧
      (Shows isBroker m.state → ∀ keysym, keysym = .Return ∨ keysym = .KP_Enter →
        let entries := eventEntries isBroker (root.getObjectItemCaseSensitive "event")
        let k := Viewport.moves (min entries.length 256) 0 (as.filterMap MainEvent.move)
        let id := offeredId isBroker env (root.getObjectItemCaseSensitive "event") k
        (id = none → ∀ env codepoint,
          swaylockHandleKey env m.state m.toChild keysym codepoint =
            .running m.state m.toChild) ∧
        ∀ v, id = some v → ∃ f, Selects print m keysym f (selectionEvent isBroker v)) := by
  have hevent := handleGdmJson_event parse print hroot hgdm hout
  generalize root.getObjectItemCaseSensitive "event" = event at *
  have hwrite := gdmEvent_list print htype
  obtain ⟨text, ht⟩ : ∃ text, cJSONPrint print (some (passedOn isBroker event)) = some text := by
    cases hj : cJSONPrint print (some (passedOn isBroker event)) with
    | none =>
      rw [writeJson, hj] at hwrite
      exact absurd (hevent.trans hwrite) hout
    | some text => exact ⟨text, rfl⟩
  rw [hevent, hwrite, writeJson_frame print ht] at hdata
  obtain ⟨rfl, hfits⟩ := commIn_consumed parse hdata hread
  obtain ⟨hiff, hmoves⟩ := browse_run isBroker hkeys hrun
  constructor
  · intro harray
    rw [hiff, commInFrame_list parse rfl]
    exact shows_commInList parse s _ harray
  · intro hshows keysym hkey
    have hid := selectedId_browsed hlist ht _ (hmoves (hiff.mp hshows))
    dsimp only
    rw [← hid]
    constructor
    · intro hnone env' codepoint
      rw [handleKey_return hshows hkey, hnone]
      rfl
    · intro v hv
      have hv' := hid.symm.trans hv
      unfold offeredId at hv'
      split at hv'
      · obtain ⟨b, hb, hbid⟩ := Option.bind_eq_some_iff.mp hv'
        have hlen := hlist.long text ht b (List.mem_of_getElem? hb) v hbid
        have htext : text.length ≤ COMM_MAX_PAYLOAD := hfits
        exact ⟨selectionFrame isBroker v, selects_selectionFrame hshows hkey hv
          (nul_notMem_stringOf hbid) (le_trans hlen htext)⟩
      · cases hv'

/-- The event of three brokers; the second one has no id. -/
def brokersEvent : Json :=
  .object [field "type" (str "brokersReceived"), field "brokersInfos" (.array [
    .object [field "id" (str "local"), field "name" (str "Local")],
    .object [field "name" (str "Nameless")],
    .object [field "id" (str "cloud"), field "name" (str "Cloud")]])]

/-- The message of the module with that event. -/
def brokersRoot : Json := .object [field "type" (str "event"), field "event" brokersEvent]

def parseBrokers : CString → Option Json :=
  parseText [brokersRoot, passedOn true (some brokersEvent)]

def printBrokers (j : Json) : Option CString := some (compact j)

def brokersFrame : Frame := ⟨COMM_MSG_BROKERS, compact (passedOn true (some brokersEvent))⟩

theorem listText_brokers : ListText parseBrokers printBrokers true (some brokersEvent) := by
  have htext : cJSONPrint printBrokers (some (passedOn true (some brokersEvent))) =
      some (compact (passedOn true (some brokersEvent))) := by rfl
  constructor
  · intro text ht
    rw [htext] at ht
    cases ht
    rfl
  · intro text ht b hb id hid
    rw [htext] at ht
    cases ht
    have hmem : b ∈ [Json.object [field "id" (str "local"), field "name" (str "Local")],
        .object [field "name" (str "Nameless")],
        .object [field "id" (str "cloud"), field "name" (str "Cloud")]] := hb
    simp only [List.mem_cons, List.not_mem_nil, or_false] at hmem
    rcases hmem with rfl | rfl | rfl
    · cases hid
      decide
    · cases hid
    · cases hid
      decide

/-- Two steps down, and `Return` selects the third broker. -/
theorem selection_fidelity_third :
    ∃ m f, run (mainStep parseBrokers) [.key {} .Down 0, .key {} .Down 0]
        ⟨commInFrame parseBrokers { reads := List.replicate 3 (.short 255) } (.start {} [0])
          brokersFrame, {}⟩ = some m ∧
      Selects printBrokers m .Return f (selectionEvent true (ascii "cloud")) := by
  have hbrowse : ∀ a ∈ [MainEvent.key {} .Down 0, .key {} .Down 0], a.Browses := by
    intro a ha
    simp only [List.mem_cons, List.not_mem_nil, or_false, or_self] at ha
    rw [ha]
    exact Or.inr rfl
  have hdata : (Pipe.mk brokersFrame.bytes true true).data = brokersFrame.bytes ++ [] :=
    (List.append_nil _).symm
  have hread : commIn parseBrokers { reads := List.replicate 3 (.short 255) }
      (Pipe.mk brokersFrame.bytes true true).revents (.start {} [0])
      (Pipe.mk brokersFrame.bytes true true) =
      .running (commInFrame parseBrokers { reads := List.replicate 3 (.short 255) } (.start {} [0])
        brokersFrame) { data := [] } := by rfl
  have hrun : run (mainStep parseBrokers) [.key {} .Down 0, .key {} .Down 0]
      ⟨commInFrame parseBrokers { reads := List.replicate 3 (.short 255) } (.start {} [0])
        brokersFrame, {}⟩ = some _ := rfl
  have hroot : cJSONParse parseBrokers {} (some (compact brokersRoot)) = some brokersRoot := by rfl
  have hgdm : handleGdmJson parseBrokers printBrokers [] {} {} (compact brokersRoot) =
      .answer brokersFrame.bytes gdmEventAck := by rfl
  have hout : brokersFrame.bytes ≠ [] := by simp [Frame.bytes]
  obtain ⟨hshows, hsel⟩ := selection_fidelity true hroot rfl listText_brokers hgdm hout
    hdata hread hrun hbrowse
  obtain ⟨f, hf⟩ := (hsel (hshows rfl) .Return (Or.inl rfl)).2 (ascii "cloud") rfl
  exact ⟨_, f, hrun, hf⟩

end SwaylockAuthd
