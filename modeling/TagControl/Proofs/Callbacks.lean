import TagControl.Bench
import TagControl.Proofs.Delivery
/-!
Callbacks of the management transport. A callback is posted exactly if it is of the one event that
carries a command and its data are a header: eight bytes, the low three bits of the first at most
three (`Command.IsHeader`). The command that is posted is the one that the header carries
(`Command.Carries`), so of the first byte only those bits matter and the second to the fourth do not
matter at all. When it is handled, the bytes of the group and of the command decide whether the
update window starts anew.
-/

set_option autoImplicit false

namespace TagControl

/-- The number by which an operation is sent. -/
def Operation.number : Operation → UInt8
  | read => 0
  | readResponse => 1
  | write => 2
  | writeResponse => 3

theorem Operation.number_le (operation : Operation) : operation.number ≤ 3 := by
  cases operation <;> decide

theorem Operation.number_inj {first second : Operation} :
    first.number = second.number ↔ first = second := by
  cases first <;> cases second <;> decide

namespace Command

def byte (data : List UInt8) (index : Nat) : UInt8 :=
  data.getD index 0

/-- The low three bits of the first byte. -/
def operationBits (data : List UInt8) : UInt8 :=
  byte data 0 &&& 7

def IsHeader (data : List UInt8) : Prop :=
  data.length = 8 ∧ operationBits data ≤ 3

/-- The header of a command. -/
structure Carries (data : List UInt8) (command : Command) : Prop where
  size : data.length = 8
  operation : command.operation.number = operationBits data
  group : command.group.toNat = 256 * (byte data 4).toNat + (byte data 5).toNat
  sequence : command.sequence = byte data 6
  id : command.id = byte data 7

/-- Whether the group is that of images, or the command the reset in the group of the system. -/
def KeepsUpdate (data : List UInt8) : Prop :=
  (byte data 4 = 0 ∧ byte data 5 = 1) ∨ (byte data 4 = 0 ∧ byte data 5 = 0 ∧ byte data 7 = 5)

instance (data : List UInt8) : Decidable (IsHeader data) :=
  inferInstanceAs (Decidable (_ ∧ _))

instance (data : List UInt8) : Decidable (KeepsUpdate data) :=
  inferInstanceAs (Decidable (_ ∨ _))

/-! ### Headers -/

theorem exists_bytes {data : List UInt8} (hsize : data.length = 8) :
    ∃ operation flags lengthHigh lengthLow high low sequence id,
      data = [operation, flags, lengthHigh, lengthLow, high, low, sequence, id] := by
  match data, hsize with
  | [operation, flags, lengthHigh, lengthLow, high, low, sequence, id], _ =>
    exact ⟨operation, flags, lengthHigh, lengthLow, high, low, sequence, id, rfl⟩

theorem and_seven (byte : UInt8) : byte &&& 7 = byte % 8 := by
  rw [← UInt8.toNat_inj, UInt8.toNat_and, UInt8.toNat_mod]
  exact Nat.and_two_pow_sub_one_eq_mod byte.toNat 3

theorem ofByte_cases (byte : UInt8) :
    (3 < byte &&& 7 ∧ Operation.ofByte byte = .error (.unknownOperation (byte &&& 7))) ∨
      ∃ operation : Operation, operation.number = byte &&& 7 ∧
        Operation.ofByte byte = .ok operation := by
  rw [and_seven]
  generalize hbits : byte % 8 = bits
  have hnumber : ∀ number : UInt8, bits.toNat = number.toNat → number = bits :=
    fun number heq ↦ (UInt8.toNat_inj.mp heq).symm
  unfold Operation.ofByte
  rw [hbits]
  split
  · next hread => exact .inr ⟨.read, hnumber 0 hread, rfl⟩
  · next hresponse => exact .inr ⟨.readResponse, hnumber 1 hresponse, rfl⟩
  · next hwrite => exact .inr ⟨.write, hnumber 2 hwrite, rfl⟩
  · next hresponse => exact .inr ⟨.writeResponse, hnumber 3 hresponse, rfl⟩
  · next hread hreadResponse hwrite hwriteResponse =>
    rw [imp_false] at hread hreadResponse hwrite hwriteResponse
    have hlt : 3 < bits.toNat := by omega
    exact .inl ⟨hlt, rfl⟩

theorem toNat_ofNat_bytes (high low : UInt8) :
    (UInt16.ofNat (256 * high.toNat + low.toNat)).toNat = 256 * high.toNat + low.toNat := by
  have hhigh := high.toNat_lt
  have hlow := low.toNat_lt
  rw [UInt16.toNat_ofNat']
  omega

theorem ofHeader_bytes (first flags lengthHigh lengthLow high low sequence id : UInt8) :
    ofHeader [first, flags, lengthHigh, lengthLow, high, low, sequence, id] =
      (Operation.ofByte first).map fun operation ↦
        ⟨operation, .ofNat (256 * high.toNat + low.toNat), id, sequence⟩ := by
  simp only [ofHeader]
  cases Operation.ofByte first <;> rfl

/-- What a callback is read as; of several faults the first is found. -/
theorem ofCallback_cases (event : UInt32) (data : List UInt8) :
    (event ≠ receivedEvent ∧ ofCallback event data = .error (.spuriousEvent event)) ∨
    (event = receivedEvent ∧ data.length ≠ 8 ∧
      ofCallback event data = .error (.wrongSize data.length 8)) ∨
    (event = receivedEvent ∧ data.length = 8 ∧ 3 < operationBits data ∧
      ofCallback event data = .error (.unknownOperation (operationBits data))) ∨
    (event = receivedEvent ∧ IsHeader data ∧
      ∃ command, Carries data command ∧ ofCallback event data = .ok command) := by
  unfold ofCallback
  by_cases hevent : event = receivedEvent
  · rw [if_pos hevent]
    refine .inr ?_
    by_cases hsize : data.length = 8
    · obtain ⟨first, flags, lengthHigh, lengthLow, high, low, sequence, id, rfl⟩ :=
        exists_bytes hsize
      rw [ofHeader_bytes]
      refine .inr ?_
      obtain ⟨hunknown, hbyte⟩ | ⟨operation, hnumber, hbyte⟩ := ofByte_cases first
      · rw [hbyte]
        exact .inl ⟨hevent, rfl, hunknown, rfl⟩
      · rw [hbyte]
        have hbits : first &&& 7 ≤ 3 := hnumber ▸ operation.number_le
        exact .inr ⟨hevent, ⟨rfl, hbits⟩, _,
          ⟨rfl, hnumber, toNat_ofNat_bytes high low, rfl, rfl⟩, rfl⟩
    · refine .inl ⟨hevent, hsize, ?_⟩
      unfold ofHeader
      split
      · exact absurd rfl hsize
      · rfl
  · rw [if_neg hevent]
    exact .inl ⟨hevent, rfl⟩

section Carried

variable {event : UInt32} {data other : List UInt8} {command : Command}

theorem carries_of_ofCallback (hread : ofCallback event data = .ok command) :
    Carries data command := by
  obtain ⟨-, herror⟩ | ⟨-, -, herror⟩ | ⟨-, -, -, herror⟩ | ⟨-, -, carried, hcarries, hok⟩ :=
    ofCallback_cases event data
  · rw [herror] at hread
    cases hread
  · rw [herror] at hread
    cases hread
  · rw [herror] at hread
    cases hread
  · rw [hok] at hread
    cases hread
    exact hcarries

theorem IsHeader.exists_carries (hheader : IsHeader data) :
    ∃ command, Carries data command ∧ ofCallback receivedEvent data = .ok command := by
  obtain ⟨hevent, -⟩ | ⟨-, hsize, -⟩ | ⟨-, -, hunknown, -⟩ | ⟨-, -, hcarried⟩ :=
    ofCallback_cases receivedEvent data
  · exact absurd rfl hevent
  · exact absurd hheader.1 hsize
  · exact absurd hheader.2 (UInt8.not_le.mpr hunknown)
  · exact hcarried

/-- A header that carries a command carries no other. -/
theorem Carries.eq {carried : Command} (hcarries : Carries data command)
    (hcarried : Carries data carried) : command = carried := by
  obtain ⟨operation, group, id, sequence⟩ := command
  obtain ⟨operation', group', id', sequence'⟩ := carried
  have hoperation : operation = operation' :=
    Operation.number_inj.mp (hcarries.operation.trans hcarried.operation.symm)
  have hgroup : group = group' :=
    UInt16.toNat_inj.mp (hcarries.group.trans hcarried.group.symm)
  have hsequence : sequence = sequence' := hcarries.sequence.trans hcarried.sequence.symm
  have hid : id = id' := hcarries.id.trans hcarried.id.symm
  rw [hoperation, hgroup, hsequence, hid]

/-- Two bytes are read off their number, the high one first. -/
theorem bytes_inj {high low high' low' : UInt8}
    (heq : 256 * high.toNat + low.toNat = 256 * high'.toNat + low'.toNat) :
    high = high' ∧ low = low' := by
  have hlow := low.toNat_lt
  have hlow' := low'.toNat_lt
  rw [← UInt8.toNat_inj, ← UInt8.toNat_inj]
  omega

/-- Two headers carry one command exactly if they agree in what of them is read. -/
theorem Carries.iff_bytes (hcarries : Carries data command) (hsize : other.length = 8) :
    Carries other command ↔ operationBits data = operationBits other ∧
      ∀ index, 4 ≤ index → index < 8 → byte data index = byte other index := by
  constructor
  · intro hother
    obtain ⟨hhigh, hlow⟩ := bytes_inj (hcarries.group.symm.trans hother.group)
    refine ⟨hcarries.operation.symm.trans hother.operation, fun index hfrom hto ↦ ?_⟩
    obtain rfl | rfl | rfl | rfl : index = 4 ∨ index = 5 ∨ index = 6 ∨ index = 7 := by omega
    · exact hhigh
    · exact hlow
    · exact hcarries.sequence.symm.trans hother.sequence
    · exact hcarries.id.symm.trans hother.id
  · rintro ⟨hbits, hbytes⟩
    refine ⟨hsize, hcarries.operation.trans hbits, ?_, ?_, ?_⟩
    · rw [← hbytes 4 (by decide) (by decide), ← hbytes 5 (by decide) (by decide)]
      exact hcarries.group
    · exact hcarries.sequence.trans (hbytes 6 (by decide) (by decide))
    · exact hcarries.id.trans (hbytes 7 (by decide) (by decide))

theorem ofCallback_eq_ofCallback_iff (hdata : IsHeader data) (hother : IsHeader other) :
    ofCallback receivedEvent data = ofCallback receivedEvent other ↔
      operationBits data = operationBits other ∧
        ∀ index, 4 ≤ index → index < 8 → byte data index = byte other index := by
  obtain ⟨first, hfirst, hread⟩ := hdata.exists_carries
  obtain ⟨second, hsecond, hreadOther⟩ := hother.exists_carries
  rw [← hfirst.iff_bytes hother.1, hread, hreadOther, Except.ok.injEq]
  constructor
  · rintro rfl
    exact hsecond
  · exact fun hcarried ↦ hcarried.eq hsecond

/-- The header of a command with the unread bytes left at zero. -/
def header (command : Command) : List UInt8 :=
  [command.operation.number, 0, 0, 0, .ofNat (command.group.toNat / 256),
    .ofNat (command.group.toNat % 256), command.sequence, command.id]

theorem carries_header (command : Command) : Carries command.header command := by
  have hgroup := command.group.toNat_lt
  refine ⟨rfl, ?_, ?_, rfl, rfl⟩
  · show command.operation.number = command.operation.number &&& 7
    cases command.operation <;> decide
  · simp only [byte, header, List.getD_cons_succ, List.getD_cons_zero, UInt8.toNat_ofNat']
    omega

theorem ofCallback_header (command : Command) :
    ofCallback receivedEvent command.header = .ok command := by
  have hcarries := carries_header command
  obtain ⟨carried, hcarried, hread⟩ := IsHeader.exists_carries
    ⟨hcarries.size, hcarries.operation ▸ command.operation.number_le⟩
  rw [hread, hcarries.eq hcarried]

/-- The group is a small number if its high byte is zero. -/
theorem Carries.group_eq_iff (hcarries : Carries data command) (low : UInt8) :
    command.group.toNat = low.toNat ↔ byte data 4 = 0 ∧ byte data 5 = low := by
  have hlow := low.toNat_lt
  have hzero : (0 : UInt8).toNat = 0 := rfl
  rw [hcarries.group, ← UInt8.toNat_inj, ← UInt8.toNat_inj, hzero]
  omega

theorem Carries.isUpdate_iff (hcarries : Carries data command) :
    command.isUpdate = true ↔ KeepsUpdate data := by
  unfold isUpdate KeepsUpdate
  rw [Bool.or_eq_true, Bool.and_eq_true, decide_eq_true_eq, decide_eq_true_eq,
    decide_eq_true_eq, ← UInt16.toNat_inj, ← UInt16.toNat_inj, hcarries.id, ← and_assoc]
  exact or_congr (hcarries.group_eq_iff 1) (and_congr_left' (hcarries.group_eq_iff 0))

end Carried

end Command

/-! ### Posts -/

namespace EventQueue

theorem value_postCommand (queue : EventQueue) (event : UInt32) (data : List UInt8) :
    ((postCommand event data).run queue).value =
      match Command.ofCallback event data with
      | .ok command => (.ok (), ((post (.commandReceived command)).run queue).value.2)
      | .error problem => (.error problem, queue) := by
  unfold postCommand
  cases Command.ofCallback event data with
  | ok command => simp
  | error problem => simp [Log.warn]

/-- A post to a queue that is not full goes to its end. -/
theorem events_post_eq_ite (queue : EventQueue) (event : Event) :
    ((post event).run queue).value.2.events =
      queue.events ++ if queue.size = 16 then [] else [event] := by
  have hfull := @accepts_eq_false queue event
  rw [events_value_post]
  cases haccepts : queue.accepts event with
  | true => simp_all [Option.filter, capacity]
  | false => simp_all [Option.filter, capacity]

end EventQueue

/-! ### The update window -/

theorem Handler.run_arm {σ : Type} (timer : Timer) (wait : Duration) (tag : Tag σ) :
    ∃ trace, (arm timer wait).run tag =
      if tag.timers.now + wait < Instant.limit then
        ⟨.ok (), { tag with
          timers := tag.timers.withDeadline timer (some (tag.timers.now + wait)) }, trace⟩
      else ⟨.error (.clockOverflow .pastLastInstant), tag, trace⟩ := by
  by_cases hroom : tag.timers.now + wait < Instant.limit
  · simp [arm, Timers.value_arm, hroom]
  · simp [arm, Timers.value_arm, hroom]

theorem TimedMode.run_extendUpdate {σ : Type} (config : Config) (command : Command)
    (tag : Tag σ) :
    ∃ trace, (extendUpdate config command).run tag =
      if command.isUpdate && tag.ledger.dfu then
        if tag.timers.now + config.dfuWindow < Instant.limit then
          ⟨.ok (), { tag with
            timers := tag.timers.withDeadline .dfu (some (tag.timers.now + config.dfuWindow)) },
            trace⟩
        else ⟨.error (.clockOverflow .pastLastInstant), tag, trace⟩
      else ⟨.ok (), tag, trace⟩ := by
  unfold extendUpdate
  cases hupdate : command.isUpdate with
  | false => simp [Log.debug]
  | true =>
    cases hdfu : tag.ledger.dfu with
    | false => simp [hdfu, Log.debug]
    | true =>
      obtain ⟨trace, harm⟩ := Handler.run_arm .dfu config.dfuWindow tag
      by_cases hroom : tag.timers.now + config.dfuWindow < Instant.limit
      · rw [if_pos hroom] at harm
        simp [hdfu, harm, hroom, Log.debug]
      · rw [if_neg hroom] at harm
        simp [hdfu, harm, hroom]

namespace Engine

variable {σ : Type} [Device σ]

/-- The handling of a command starts the update window anew if the command belongs to an update and
the update mode is active, and otherwise leaves the tag as it was. -/
theorem run_deliver_commandReceived (config : Config) (command : Command) (tag : Tag σ) :
    ∃ trace, (deliver config (.commandReceived command)).run tag =
      if command.isUpdate && tag.ledger.dfu then
        if tag.timers.now + config.dfuWindow < Instant.limit then
          ⟨.ok (.ok ()), { tag with
            timers := tag.timers.withDeadline .dfu (some (tag.timers.now + config.dfuWindow)) },
            trace⟩
        else ⟨.error .pastLastInstant, tag, trace⟩
      else ⟨.ok (.ok ()), tag, trace⟩ := by
  obtain ⟨trace, hrun⟩ := TimedMode.run_extendUpdate config command tag
  have hhandle : (handle config (.commandReceived command)).run tag = _ := hrun
  rw [run_deliver, hhandle]
  split
  · split
    · exact ⟨_, rfl⟩
    · exact ⟨_, rfl⟩
  · exact ⟨_, rfl⟩

end Engine

namespace EventQueue

open Command

variable {queue : EventQueue} {event : UInt32} {data : List UInt8}

theorem answer_postCommand (queue : EventQueue) (event : UInt32) (data : List UInt8) :
    ((postCommand event data).run queue).value.1 =
      if event ≠ receivedEvent then .error (.spuriousEvent event)
      else if data.length ≠ 8 then .error (.wrongSize data.length 8)
      else if 3 < operationBits data then .error (.unknownOperation (operationBits data))
      else .ok () := by
  rw [value_postCommand]
  obtain ⟨hevent, hread⟩ | ⟨hevent, hsize, hread⟩ | ⟨hevent, hsize, hunknown, hread⟩ |
    ⟨hevent, ⟨hsize, hknown⟩, command, -, hread⟩ := ofCallback_cases event data
  · rw [hread, if_pos hevent]
  · rw [hread, if_neg (not_not.mpr hevent), if_pos hsize]
  · rw [hread, if_neg (not_not.mpr hevent), if_neg (not_not.mpr hsize), if_pos hunknown]
  · rw [hread, if_neg (not_not.mpr hevent), if_neg (not_not.mpr hsize),
      if_neg (UInt8.not_lt.mpr hknown)]

theorem state_of_answer_error {problem : PayloadError}
    (herror : ((postCommand event data).run queue).value.1 = .error problem) :
    ((postCommand event data).run queue).value.2 = queue := by
  rw [value_postCommand] at herror ⊢
  cases hread : ofCallback event data with
  | ok command =>
    rw [hread] at herror
    cases herror
  | error problem => rfl

theorem posted_of_answer_ok (hok : ((postCommand event data).run queue).value.1 = .ok ()) :
    ∃ command, ofCallback event data = .ok command ∧ Carries data command ∧
      ((postCommand event data).run queue).value.2.events =
        queue.events ++ if queue.size = 16 then [] else [.commandReceived command] := by
  rw [value_postCommand] at hok ⊢
  cases hread : ofCallback event data with
  | error problem =>
    rw [hread] at hok
    cases hok
  | ok command =>
    exact ⟨command, rfl, carries_of_ofCallback hread, events_post_eq_ite queue _⟩

/-- A callback is answered for its first fault, which leaves the queue as it was, and if it has none
the command of its header is put at the end of the queue unless that is full. Two headers carry one
command exactly if they agree in the low three bits of the first byte and in the last four, and
every command is carried by some header. When the command is handled, the update window starts anew
exactly if the update mode is active and the header says that the update goes on. -/
theorem well_formed_callbacks_posted {σ : Type} [Device σ] :
    (∀ queue event data, ((postCommand event data).run queue).value.1 =
      if event ≠ 1 then .error (.spuriousEvent event)
      else if data.length ≠ 8 then .error (.wrongSize data.length 8)
      else if 3 < operationBits data then .error (.unknownOperation (operationBits data))
      else .ok ()) ∧
    (∀ queue event data problem, ((postCommand event data).run queue).value.1 = .error problem →
      ((postCommand event data).run queue).value.2 = queue) ∧
    (∀ queue event data, ((postCommand event data).run queue).value.1 = .ok () →
      ∃ command, ofCallback event data = .ok command ∧ Carries data command ∧
        ((postCommand event data).run queue).value.2.events =
          queue.events ++ if queue.size = 16 then [] else [.commandReceived command]) ∧
    (∀ first second, IsHeader first → IsHeader second →
      (ofCallback 1 first = ofCallback 1 second ↔ operationBits first = operationBits second ∧
        ∀ index, 4 ≤ index → index < 8 → byte first index = byte second index)) ∧
    (∀ command, ∃ data, ofCallback 1 data = .ok command) ∧
    ∀ data command, ofCallback 1 data = .ok command → ∀ (config : Config) (tag : Tag σ),
      ∃ trace, (Engine.deliver config (.commandReceived command)).run tag =
        if KeepsUpdate data ∧ tag.ledger.dfu = true then
          if tag.timers.now + config.dfuWindow < Instant.limit then
            ⟨.ok (.ok ()), { tag with
              timers := tag.timers.withDeadline .dfu (some (tag.timers.now + config.dfuWindow)) },
              trace⟩
          else ⟨.error .pastLastInstant, tag, trace⟩
        else ⟨.ok (.ok ()), tag, trace⟩ := by
  refine ⟨answer_postCommand, fun _ _ _ _ ↦ state_of_answer_error,
    fun _ _ _ ↦ posted_of_answer_ok, fun _ _ ↦ ofCallback_eq_ofCallback_iff,
    fun command ↦ ⟨command.header, ofCallback_header command⟩,
    fun data command hread config tag ↦ ?_⟩
  have hkeeps := (carries_of_ofCallback hread).isUpdate_iff
  obtain ⟨trace, hrun⟩ := Engine.run_deliver_commandReceived config command tag
  refine ⟨trace, hrun.trans ?_⟩
  simp only [Bool.and_eq_true, hkeeps]

/-- Fifteen events that wait. -/
def nearlyFull : EventQueue :=
  ⟨List.replicate 15 .clockSynced, by decide⟩

/-- Half a minute into the update mode. -/
def halfway : Tag Bench where
  ledger := { dfu := true }
  timers := { now := 30000000, dfu := some 60000000 }
  device := {}

/-- A reset command whose header has flags, a length and a version: it takes the last place in the
queue, and then the window starts anew. A header without its operation is refused. -/
theorem reset_command_posted :
    ((postCommand 1 [0xFA, 9, 1, 2, 0, 0, 7, 5]).run nearlyFull).value.2.events =
      nearlyFull.events ++ [.commandReceived ⟨.write, 0, 5, 7⟩] ∧
    ((postCommand 1 [0xFC, 9, 1, 2, 0, 0, 7, 5]).run nearlyFull).value.2 = nearlyFull ∧
    ofCallback 1 [0xFA, 9, 1, 2, 0, 0, 7, 5] = ofCallback 1 [2, 0, 0, 0, 0, 0, 7, 5] ∧
    ∃ trace, (Engine.deliver {} (.commandReceived ⟨.write, 0, 5, 7⟩)).run halfway =
      ⟨.ok (.ok ()), { halfway with
        timers := halfway.timers.withDeadline .dfu (some 90000000) }, trace⟩ := by
  obtain ⟨hanswer, hrefused, hposted, hsame, -, hhandled⟩ := @well_formed_callbacks_posted Bench _
  have hok := hanswer nearlyFull 1 [0xFA, 9, 1, 2, 0, 0, 7, 5]
  have herror := hanswer nearlyFull 1 [0xFC, 9, 1, 2, 0, 0, 7, 5]
  have hread : ofCallback 1 [0xFA, 9, 1, 2, 0, 0, 7, 5] = .ok ⟨.write, 0, 5, 7⟩ := rfl
  obtain ⟨command, hcommand, -, hqueued⟩ := hposted _ _ _ hok
  rw [hread] at hcommand
  cases hcommand
  obtain ⟨trace, hrun⟩ := hhandled _ _ hread {} halfway
  rw [if_pos (by decide), if_pos (by decide)] at hrun
  have hbytes : ∀ index < 8, 4 ≤ index → byte [0xFA, 9, 1, 2, 0, 0, 7, 5] index =
      byte [2, 0, 0, 0, 0, 0, 7, 5] index := by decide
  exact ⟨hqueued, hrefused _ _ _ _ herror, (hsame _ _ (by decide) (by decide)).mpr
    ⟨by decide, fun index hfrom hto ↦ hbytes index hto hfrom⟩, trace, hrun⟩

end EventQueue

end TagControl
