import CfsTelemetry.Feedback.Checksum
import CfsTelemetry.Ground.RouteSender
import CfsTelemetry.Ground.TextLine

/-!
# The command-line senders of the ground station

The senders put a command into a packet for the bus, or into a text line for the radio. The
packet carries the command as the structure in memory that the uplink application reads it as,
behind two headers and under a checksum of its own. Read there, it is the command that the LoRa
application forwards for the text line.
-/
namespace CfsTelemetry.Ground

open Words Lora

/-- Pack a half word (format `H`). -/
def packHalf (value : Int) : Option UInt16 :=
  if 0 ≤ value ∧ value ≤ 65535 then some value.toNat.toUInt16 else none

/-- Pack a word (format `I`). -/
def packWord (value : Int) : Option UInt32 :=
  if 0 ≤ value ∧ value ≤ 4294967295 then some value.toNat.toUInt32 else none

/-- The bytes of a half word, the high one first (format `>H`). -/
def bytes16BE (half : UInt16) : List UInt8 := [(half >>> 8).toUInt8, half.toUInt8]

/-- The sum over a packet that makes up for its other bytes. -/
def calcChecksum (packet : List UInt8) : UInt8 := packet.foldl (· ^^^ ·) 0xFF

/-- The primary header of a packet. -/
def ccsdsPrimary (mid totalPacketSize : Int) : Option (List UInt8) := do
  some (bytes16BE (← packHalf mid) ++ bytes16BE 0xC000 ++
    bytes16BE (← packHalf (totalPacketSize - 7)))

/-- The identifier of the commands of the uplink application (`UPLINK_APP_CMD_MID`). -/
def uplinkAppCmdMid : Int := 0x18D0

/-- The code of the command that carries a ground command (`UPLINK_APP_PROCESS_UPLINK_CC`). -/
def processUplinkCc : Int := 2

/-- Build the packet of a command. -/
def buildCommandPacket (functionCode : Int) (payload : List UInt8) : Option (List UInt8) := do
  let functionCode ← packByte functionCode
  let totalSize := 6 + 2 + payload.length
  let primary ← ccsdsPrimary uplinkAppCmdMid totalSize
  let packetWithoutChecksum := primary ++ [functionCode, 0] ++ payload
  some (primary ++ [functionCode, calcChecksum packetWithoutChecksum] ++ payload)

/-- Build the structure that carries a ground command. -/
def buildProcessUplinkPayload (sequence : Int) (proxyPayload : List UInt8)
    (commandClass version flags : Int) : Option (List UInt8) :=
  if proxyPayload.length > 196 then none
  else do
    let head := [← packByte version, ← packByte commandClass, ← packByte proxyPayload.length,
      ← packByte flags] ++ bytes16 (← packHalf sequence)
    let checksum := crc16Ccitt (head ++ proxyPayload)
    some (head ++ bytes16 (← packHalf checksum) ++
      (proxyPayload ++ List.replicate (196 - proxyPayload.length) 0))

/-- The packet that a sender sends over the network. -/
def udpPacket (sequence : Int) (proxyPayload : List UInt8) (commandClass version flags : Int) :
    Option (List UInt8) := do
  buildCommandPacket processUplinkCc
    (← buildProcessUplinkPayload sequence proxyPayload commandClass version flags)

/-- The flags of a command: an authorization level, and whether the command is forced. -/
def commandFlags (force : Bool) (auth : Nat) : Nat := (if force then 1 else 0) ||| auth <<< 6

/-- A command as it stands in memory behind its headers (`UPLINK_APP_ProcessUplinkCmd_t`). -/
def commandBytes (cmd : ProcessUplinkCmd) : List UInt8 :=
  [cmd.version, cmd.commandClass, cmd.payloadLength, cmd.flags] ++ bytes16 cmd.sequence ++
    bytes16 cmd.checksum ++ cmd.payload.toList

/-- The command that bytes in memory are read as. -/
def readCommand (bytes : List UInt8) : ProcessUplinkCmd where
  version := byteAt bytes 0
  commandClass := byteAt bytes 1
  payloadLength := byteAt bytes 2
  flags := byteAt bytes 3
  sequence := word16 (byteAt bytes 4) (byteAt bytes 5)
  checksum := word16 (byteAt bytes 6) (byteAt bytes 7)
  payload := payloadOf (bytes.drop 8)

/-- The message that the uplink application receives for a packet: its function code, the bytes
behind the headers that its length field announces, and the command. -/
def readMessage (packet : List UInt8) : Uplink.PipeMessage :=
  .command ((byteAt packet 6).toUInt16 &&& 0x7F)
    ((word16 (byteAt packet 5) (byteAt packet 4)).toNat + 7 - 8) (readCommand (packet.drop 8))

/-! ## What is packed -/

section

variable {value : Int}

/-- A packed byte has its value. -/
theorem packByte_eq_some {byte : UInt8} : packByte value = some byte ↔ value = byte.toNat := by
  unfold packByte
  constructor
  · intro packed
    split at packed
    · rename_i bounds
      rw [← Option.some.inj packed, UInt8.toNat_ofNat_of_lt' (by change _ < 256; omega)]
      omega
    · cases packed
  · rintro rfl
    have bound := byte.toNat_lt
    rw [if_pos ⟨by omega, by omega⟩, Int.toNat_natCast]
    exact congrArg some UInt8.ofNat_toNat

/-- A packed half word has its value. -/
theorem packHalf_eq_some {half : UInt16} : packHalf value = some half ↔ value = half.toNat := by
  unfold packHalf
  constructor
  · intro packed
    split at packed
    · rename_i bounds
      rw [← Option.some.inj packed, UInt16.toNat_ofNat_of_lt' (by change _ < 65536; omega)]
      omega
    · cases packed
  · rintro rfl
    have bound := half.toNat_lt
    rw [if_pos ⟨by omega, by omega⟩, Int.toNat_natCast]
    exact congrArg some UInt16.ofNat_toNat

/-- A packed word has its value. -/
theorem packWord_eq_some {word : UInt32} : packWord value = some word ↔ value = word.toNat := by
  unfold packWord
  constructor
  · intro packed
    split at packed
    · rename_i bounds
      rw [← Option.some.inj packed, UInt32.toNat_ofNat_of_lt' (by change _ < 4294967296; omega)]
      omega
    · cases packed
  · rintro rfl
    have bound := word.toNat_lt
    rw [if_pos ⟨by omega, by omega⟩, Int.toNat_natCast]
    exact congrArg some UInt32.ofNat_toNat

end

/-- A command is read from its bytes in memory. -/
theorem readCommand_commandBytes (cmd : ProcessUplinkCmd) :
    readCommand (commandBytes cmd) = cmd := by
  have payload : payloadOf ((commandBytes cmd).drop 8) = cmd.payload := by
    change payloadOf cmd.payload.toList = cmd.payload
    apply Vector.ext
    intro index inside
    rw [payloadOf, Vector.getElem_ofFn, Vector.getElem?_toList, Vector.getElem?_eq_getElem inside]
    rfl
  have sequence : word16 (byteAt (commandBytes cmd) 4) (byteAt (commandBytes cmd) 5) =
      cmd.sequence := word16_bytes cmd.sequence
  have checksum : word16 (byteAt (commandBytes cmd) 6) (byteAt (commandBytes cmd) 7) =
      cmd.checksum := word16_bytes cmd.checksum
  unfold readCommand
  rw [payload, sequence, checksum]
  rfl

/-- The bytes of a command. -/
theorem commandBytes_length (cmd : ProcessUplinkCmd) : (commandBytes cmd).length = 204 := by
  have length : cmd.payload.toList.length = 196 := Vector.length_toList
  simp only [commandBytes, bytes16, List.length_append, length]
  rfl

/-- The payload behind which the sender pads is the one of the command. -/
theorem payloadOf_padded {payload : List UInt8} (small : payload.length ≤ 196) :
    (payloadOf payload).toList = payload ++ List.replicate (196 - payload.length) 0 := by
  apply List.ext_getElem?
  intro index
  by_cases inside : index < 196
  · have available : index < maxPayloadLength := inside
    rw [Vector.getElem?_toList, payloadOf, Vector.getElem?_eq_getElem available,
      Vector.getElem_ofFn]
    by_cases used : index < payload.length
    · rw [List.getElem?_append_left used, List.getElem?_eq_getElem used]
      rfl
    · have unused : payload.length ≤ index := Nat.not_lt.mp used
      dsimp only
      rw [List.getElem?_append_right unused, List.getElem?_eq_none unused,
        List.getElem?_replicate, if_pos (Nat.sub_lt_sub_right unused inside)]
      rfl
  · have length : (payloadOf payload).toList.length = 196 := Vector.length_toList
    rw [List.getElem?_eq_none (by omega), List.getElem?_eq_none (by simp; omega)]

section

variable {sequence version commandClass flags : Int} {payload : List UInt8}

/-- The structure is built exactly for a payload and fields that fit, and is then the command of
these fields, with the checksum that the LoRa application writes too. -/
theorem buildProcessUplinkPayload_eq_some {bytes : List UInt8} :
    buildProcessUplinkPayload sequence payload commandClass version flags = some bytes ↔
      payload.length ≤ 196 ∧ ∃ (version' commandClass' flags' : UInt8) (sequence' : UInt16),
        version = version'.toNat ∧ commandClass = commandClass'.toNat ∧ flags = flags'.toNat ∧
        sequence = sequence'.toNat ∧ bytes = commandBytes (forwardedCmd version' commandClass'
          sequence' flags' payload.length.toUInt8 (payloadOf payload)) := by
  unfold buildProcessUplinkPayload
  by_cases large : payload.length > 196
  · rw [if_pos large]
    simp [Nat.not_le.mpr large]
  rw [if_neg large]
  have small : payload.length ≤ 196 := Nat.not_lt.mp large
  have length : packByte payload.length = some payload.length.toUInt8 :=
    packByte_eq_some.mpr (by
      rw [UInt8.toNat_ofNat_of_lt' (by change _ < 256; omega)])
  have used : payload.length.toUInt8.toNat = payload.length :=
    UInt8.toNat_ofNat_of_lt' (by change _ < 256; omega)
  have taken : (payloadOf payload).toList.take payload.length.toUInt8.toNat = payload := by
    rw [used, payloadOf_take small]
  -- Whatever the fields are, the checksum is the one of the command and fits its half word.
  have built : ∀ (version' commandClass' flags' : UInt8) (sequence' : UInt16),
      (do
        let head := [version', commandClass', payload.length.toUInt8, flags'] ++ bytes16 sequence'
        let checksum := crc16Ccitt (head ++ payload)
        some (head ++ bytes16 (← packHalf checksum) ++
          (payload ++ List.replicate (196 - payload.length) 0))) =
        some (commandBytes (forwardedCmd version' commandClass' sequence' flags'
          payload.length.toUInt8 (payloadOf payload))) := by
    intro version' commandClass' flags' sequence'
    have checksum : packHalf (crc16Ccitt ([version', commandClass', payload.length.toUInt8,
        flags'] ++ bytes16 sequence' ++ payload)) = some (crc16 ([version', commandClass',
          payload.length.toUInt8, flags'] ++ bytes16 sequence' ++ payload)) :=
      packHalf_eq_some.mpr (congrArg Nat.cast (crc16Ccitt_eq _))
    dsimp only
    rw [checksum, ← payloadOf_padded small]
    unfold commandBytes forwardedCmd
    dsimp only
    rw [taken]
    rfl
  rw [length]
  constructor
  · intro made
    cases packed : packByte version with
    | none => simp [packed] at made
    | some version' =>
    cases packed' : packByte commandClass with
    | none => simp [packed, packed'] at made
    | some commandClass' =>
    cases packed'' : packByte flags with
    | none => simp [packed, packed', packed''] at made
    | some flags' =>
    cases halved : packHalf sequence with
    | none => simp [packed, packed', packed'', halved] at made
    | some sequence' =>
    rw [packed, packed', packed'', halved] at made
    have own := (built version' commandClass' flags' sequence').symm.trans made
    exact ⟨small, version', commandClass', flags', sequence', packByte_eq_some.mp packed,
      packByte_eq_some.mp packed', packByte_eq_some.mp packed'', packHalf_eq_some.mp halved,
      (Option.some.inj own).symm⟩
  · rintro ⟨-, version', commandClass', flags', sequence', rfl, rfl, rfl, rfl, rfl⟩
    rw [packByte_eq_some.mpr rfl, packByte_eq_some.mpr rfl, packByte_eq_some.mpr rfl,
      packHalf_eq_some.mpr rfl]
    exact built version' commandClass' flags' sequence'

end

/-- A sum that starts elsewhere differs by that start. -/
theorem foldl_xor (start : UInt8) (bytes : List UInt8) :
    bytes.foldl (· ^^^ ·) start = start ^^^ bytes.foldl (· ^^^ ·) 0 := by
  induction bytes generalizing start with
  | nil => exact UInt8.xor_zero.symm
  | cons byte rest previous =>
    rw [List.foldl_cons, List.foldl_cons, previous (start ^^^ byte), previous (0 ^^^ byte),
      UInt8.zero_xor, UInt8.xor_assoc]

/-- A packet with its checksum in the place of a zero sums up to nothing. -/
theorem calcChecksum_completed (front back : List UInt8) :
    calcChecksum (front ++ [calcChecksum (front ++ [0] ++ back)] ++ back) = 0 := by
  have sum : ∀ byte : UInt8, calcChecksum (front ++ [byte] ++ back) =
      byte ^^^ calcChecksum (front ++ back) := by
    intro byte
    unfold calcChecksum
    rw [List.foldl_append, List.foldl_append, List.foldl_append, List.foldl_cons, List.foldl_nil,
      foldl_xor (_ ^^^ byte), foldl_xor (front.foldl _ _) back, ← UInt8.xor_assoc,
      UInt8.xor_comm byte]
  rw [sum, sum 0, UInt8.zero_xor, UInt8.xor_self]

/-- The first bytes of the packet of a command: the headers up to the function code. -/
def packetHead : List UInt8 := [0x18, 0xD0, 0xC0, 0, 0, 205, 2]

/-- The packet of a command. -/
def busPacket (cmd : ProcessUplinkCmd) : List UInt8 :=
  packetHead ++ [calcChecksum (packetHead ++ [0] ++ commandBytes cmd)] ++ commandBytes cmd

/-- A packet brings a command to the uplink application: it has the length that is announced
there, sums up to nothing, and is read as the command. -/
structure Brings (packet : List UInt8) (cmd : ProcessUplinkCmd) : Prop where
  length : packet.length = 212
  checksum : calcChecksum packet = 0
  message : readMessage packet = .command 2 204 cmd

/-- The packet of a command brings it. -/
theorem busPacket_brings (cmd : ProcessUplinkCmd) : Brings (busPacket cmd) cmd := by
  have read : readCommand ((busPacket cmd).drop 8) = cmd := readCommand_commandBytes cmd
  refine ⟨?_, calcChecksum_completed packetHead (commandBytes cmd), ?_⟩
  · rw [busPacket, List.length_append, commandBytes_length]
    rfl
  · have code : byteAt (busPacket cmd) 6 = 2 := rfl
    have high : byteAt (busPacket cmd) 4 = 0 := rfl
    have low : byteAt (busPacket cmd) 5 = 205 := rfl
    have masked : (2 : UInt8).toUInt16 &&& 0x7F = 2 := by decide
    have announced : (word16 205 0).toNat + 7 - 8 = 204 := by decide
    rw [readMessage, read, code, high, low, masked, announced]

/-- The packet of a structure. -/
theorem buildCommandPacket_commandBytes (cmd : ProcessUplinkCmd) :
    buildCommandPacket processUplinkCc (commandBytes cmd) = some (busPacket cmd) := by
  unfold buildCommandPacket
  rw [commandBytes_length]
  rfl

section

variable (sequence version commandClass flags : Int) (payload : List UInt8)

/-- The payload and the fields of a command fit the structure that carries it. Packing what does not
fit is an error of the sender. -/
structure Fits : Prop where
  version : 0 ≤ version ∧ version ≤ 255
  commandClass : 0 ≤ commandClass ∧ commandClass ≤ 255
  flags : 0 ≤ flags ∧ flags ≤ 255
  sequence : 0 ≤ sequence ∧ sequence ≤ 65535
  payload : payload.length ≤ 196

/-- The command that is sent, whichever way. -/
def sentCommand : ProcessUplinkCmd :=
  commandOf version.toNat commandClass.toNat sequence.toNat payload flags.toNat

/-- What fits is given by bytes and a half word. -/
theorem fits_iff : Fits sequence version commandClass flags payload ↔
    payload.length ≤ 196 ∧ ∃ (version' commandClass' flags' : UInt8) (sequence' : UInt16),
      version = version'.toNat ∧ commandClass = commandClass'.toNat ∧ flags = flags'.toNat ∧
        sequence = sequence'.toNat := by
  have byte : ∀ value : Int, 0 ≤ value ∧ value ≤ 255 → value = value.toNat.toUInt8.toNat := by
    rintro value ⟨low, high⟩
    rw [UInt8.toNat_ofNat_of_lt' (by change _ < 256; omega), Int.toNat_of_nonneg low]
  have half : ∀ value : Int, 0 ≤ value ∧ value ≤ 65535 →
      value = value.toNat.toUInt16.toNat := by
    rintro value ⟨low, high⟩
    rw [UInt16.toNat_ofNat_of_lt' (by change _ < 65536; omega), Int.toNat_of_nonneg low]
  constructor
  · intro fits
    exact ⟨fits.payload, _, _, _, _, byte version fits.version,
      byte commandClass fits.commandClass, byte flags fits.flags, half sequence fits.sequence⟩
  · rintro ⟨small, version, commandClass, flags, sequence, rfl, rfl, rfl, rfl⟩
    have bounds := And.intro version.toNat_lt (And.intro commandClass.toNat_lt flags.toNat_lt)
    have bound := sequence.toNat_lt
    exact ⟨by omega, by omega, by omega, by omega, small⟩

/-- The command that is sent for given bytes and a half word. -/
theorem sentCommand_eq (version commandClass flags : UInt8) (sequence : UInt16) :
    sentCommand sequence.toNat version.toNat commandClass.toNat flags.toNat payload =
      forwardedCmd version commandClass sequence flags payload.length.toUInt8
        (payloadOf payload) := by
  have cut : (sequence.toNat &&& 0xFFFF).toUInt16 = sequence := by
    rw [Nat.and_two_pow_sub_one_of_lt_two_pow sequence.toNat_lt]
    exact UInt16.ofNat_toNat
  unfold sentCommand commandOf up2Of Up2Decoded.command
  simp only [Int.toNat_natCast, cut, Nat.toUInt8_eq, UInt8.ofNat_toNat]

/-- The packet is built exactly for what fits, and is the one of the command. -/
theorem udpPacket_eq_some {packet : List UInt8} :
    udpPacket sequence payload commandClass version flags = some packet ↔
      Fits sequence version commandClass flags payload ∧
        packet = busPacket (sentCommand sequence version commandClass flags payload) := by
  unfold udpPacket
  constructor
  · intro built
    simp only [bind, Option.bind_eq_some_iff] at built
    obtain ⟨bytes, structured, packed⟩ := built
    obtain ⟨small, version', commandClass', flags', sequence', rfl, rfl, rfl, rfl, rfl⟩ :=
      buildProcessUplinkPayload_eq_some.mp structured
    rw [buildCommandPacket_commandBytes] at packed
    exact ⟨(fits_iff ..).mpr ⟨small, _, _, _, _, rfl, rfl, rfl, rfl⟩, by
      rw [← Option.some.inj packed, sentCommand_eq]⟩
  · rintro ⟨fits, rfl⟩
    obtain ⟨small, version', commandClass', flags', sequence', rfl, rfl, rfl, rfl⟩ :=
      (fits_iff ..).mp fits
    have structured : buildProcessUplinkPayload sequence'.toNat payload commandClass'.toNat
        version'.toNat flags'.toNat = some (commandBytes (forwardedCmd version' commandClass'
          sequence' flags' payload.length.toUInt8 (payloadOf payload))) :=
      buildProcessUplinkPayload_eq_some.mpr ⟨small, _, _, _, _, rfl, rfl, rfl, rfl, rfl⟩
    rw [structured, sentCommand_eq, ← buildCommandPacket_commandBytes]
    exact Option.bind_some _ _

/-- A command is packed for the bus exactly when its payload and its fields fit. The packet has
the length that it announces, sums up to nothing, and is read as a command that passes the checks
of the uplink application on its length and checksum: the same command that the LoRa application
forwards for the text line of the command, when that fits its buffer, and for the binary frame. -/
theorem encodings_agree :
    (udpPacket sequence payload commandClass version flags = none ↔
      ¬ Fits sequence version commandClass flags payload) ∧
    ∀ packet, udpPacket sequence payload commandClass version flags = some packet →
      Brings packet (sentCommand sequence version commandClass flags payload) ∧
      Feedback.Agreed (sentCommand sequence version commandClass flags payload) ∧
      (lineLength version.toNat commandClass.toNat sequence.toNat payload flags.toNat ≤ 255 →
        Forwards (lineOf version.toNat commandClass.toNat sequence.toNat payload flags.toNat)
          (sentCommand sequence version commandClass flags payload)) ∧
      ∀ frame, buildUp2 version.toNat commandClass.toNat sequence.toNat payload flags.toNat =
          some frame →
        Forwards frame (sentCommand sequence version commandClass flags payload) := by
  have packed := @udpPacket_eq_some sequence version commandClass flags payload
  constructor
  · constructor
    · intro none fits
      rw [packed.mpr ⟨fits, rfl⟩] at none
      cases none
    · intro unfit
      by_contra some
      obtain ⟨packet, built⟩ := Option.ne_none_iff_exists'.mp some
      exact unfit (packed.mp built).1
  · intro packet built
    obtain ⟨fits, rfl⟩ := packed.mp built
    have bounds : version.toNat ≤ 255 ∧ commandClass.toNat ≤ 255 ∧ flags.toNat ≤ 255 := by
      have := fits.version
      have := fits.commandClass
      have := fits.flags
      omega
    have bound : sequence.toNat ≤ 65535 := by
      have := fits.sequence
      omega
    have short : payload.length.toUInt8 ≤ 196 := by
      rw [UInt8.le_iff_toNat_le, Nat.toUInt8_eq, UInt8.toNat_ofNat']
      exact Nat.le_trans (Nat.mod_le _ _) fits.payload
    exact ⟨busPacket_brings _, Feedback.forwardedCmd_agreed _ _ _ _ _ _ short,
      line_forwards bounds bound fits.payload,
      fun frame framed => frame_forwards framed fits.payload⟩

end

/-! ## The gates -/

section

variable {sequence : UInt16} {commandClass : UInt8} {force : Bool} {auth : Nat}
  {payload : List UInt8}

/-- The flags of a command have the level and the force that they are made of. -/
theorem commandFlags_spec (level : auth ≤ 3) :
    commandFlags force auth ≤ 255 ∧
      ((commandFlags force auth).toUInt8 >>> 6) &&& 0x3 = auth.toUInt8 ∧
      ((commandFlags force auth).toUInt8 &&& 0x01 != 0) = force := by
  have each : ∀ force, ∀ auth : Fin 4, commandFlags force auth.val ≤ 255 ∧
      ((commandFlags force auth.val).toUInt8 >>> 6) &&& 0x3 = auth.val.toUInt8 ∧
      ((commandFlags force auth.val).toUInt8 &&& 0x01 != 0) = force := by decide
  exact each force ⟨auth, by omega⟩

/-- The command of a sender for a class: version 1, with flags of a level. -/
def classCommand (sequence : UInt16) (commandClass : UInt8) (force : Bool) (auth : Nat)
    (payload : List UInt8) : ProcessUplinkCmd :=
  sentCommand sequence.toNat 1 commandClass.toNat (commandFlags force auth) payload

/-- The command has its fields. -/
theorem classCommand_eq : classCommand sequence commandClass force auth payload =
    forwardedCmd 1 commandClass sequence (commandFlags force auth).toUInt8
      payload.length.toUInt8 (payloadOf payload) := by
  have cut : (sequence.toNat &&& 0xFFFF).toUInt16 = sequence := by
    rw [Nat.and_two_pow_sub_one_of_lt_two_pow sequence.toNat_lt]
    exact UInt16.ofNat_toNat
  unfold classCommand sentCommand commandOf up2Of Up2Decoded.command
  simp only [Int.toNat_natCast, cut, Nat.toUInt8_eq, UInt8.ofNat_toNat]
  rfl

/-- A health state lets only some commands through. -/
def Impaired (health : UInt8) : Prop := health = 1 ∨ health = 2 ∨ health = 3

/-- A command that neither intervenes nor goes without what is degraded is blocked whenever the
system is not healthy. -/
theorem healthBlocks_iff {cmd : ProcessUplinkCmd}
    (intervenes : Uplink.intervenes cmd.commandClass = false)
    (relies : cmd.commandClass = Uplink.CommandClass.config.code ∨
      Uplink.asksFlightMode cmd .waypoint = true) (health : UInt8) :
    Uplink.healthBlocks health cmd = true ↔ Impaired health := by
  unfold Uplink.healthBlocks Impaired
  rw [intervenes]
  split
  · rename_i failed
    exact iff_of_true rfl (.inr (.inr failed))
  · rename_i failed
    split
    · rename_i recovering
      exact iff_of_true rfl (.inr (.inl recovering))
    · rename_i recovering
      split
      · rename_i degraded
        refine iff_of_true ?_ (.inl degraded)
        rcases relies with config | flies
        · simp [config]
        · simp [flies]
      · rename_i degraded
        exact iff_of_false (by decide) (by rintro (one | two | three) <;> contradiction)

/-- The command has the level and the force that it is sent with. -/
theorem classCommand_flags (level : auth ≤ 3) :
    Uplink.authLevel (classCommand sequence commandClass force auth payload) = auth.toUInt8 ∧
      Uplink.forced (classCommand sequence commandClass force auth payload) = force := by
  obtain ⟨-, own, forces⟩ := @commandFlags_spec force auth level
  rw [classCommand_eq]
  exact ⟨own, forces⟩

/-- A byte of the command is one of its payload. -/
theorem classCommand_byte {index : Nat} (inside : index < 196) :
    (classCommand sequence commandClass force auth payload).byte index =
      payload[index]?.getD 0 := by
  have available : index < maxPayloadLength := inside
  change (payloadOf payload)[index]?.getD 0 = _
  rw [payloadOf, Vector.getElem?_eq_getElem available, Vector.getElem_ofFn]
  rfl

/-- A command of a known class with a payload and the right checksum passes the checks. -/
theorem valid_of_fields {cmd : ProcessUplinkCmd} (version : cmd.version = Uplink.protocolVersion)
    (bounded : cmd.payloadLength ≤ 196) (known : Uplink.knownClass cmd.commandClass = true)
    (used : cmd.payloadLength ≠ 0) (checksum : cmd.checksum = Uplink.computeProxyCrc cmd) :
    Uplink.validateProxyCommand cmd = .ok () := by
  have named : ¬ (!Uplink.knownClass cmd.commandClass) = true := by
    rw [known]
    decide
  unfold Uplink.validateProxyCommand
  rw [if_neg (not_not.mpr version), if_neg (UInt8.not_lt.mpr bounded), if_neg named,
    if_neg (not_and_of_not_right _ used), if_neg (not_not.mpr checksum.symm)]

/-- A command of a sender passes the checks. -/
theorem classCommand_valid (known : Uplink.knownClass commandClass = true)
    (used : payload ≠ []) (small : payload.length ≤ 196) :
    Uplink.validateProxyCommand (classCommand sequence commandClass force auth payload) =
      .ok () := by
  have length : 0 < payload.length := List.length_pos_iff.mpr used
  have count : payload.length.toUInt8.toNat = payload.length :=
    UInt8.toNat_ofNat_of_lt' (by change _ < 256; omega)
  have bounded : payload.length.toUInt8 ≤ 196 := UInt8.le_iff_toNat_le.mpr (by
    rw [count]
    exact small)
  have some : payload.length.toUInt8 ≠ 0 := by
    intro none
    rw [none] at count
    exact absurd count (Nat.ne_of_lt length)
  have agreed := Feedback.forwardedCmd_agreed 1 commandClass sequence
    (commandFlags force auth).toUInt8 payload.length.toUInt8 (payloadOf payload) bounded
  rw [classCommand_eq]
  exact valid_of_fields rfl bounded known some agreed.checksum

/-- A command of a known class is admitted when it is new, and the health and its authorization
let it through. -/
theorem classCommand_admits (known : Uplink.knownClass commandClass = true)
    (used : payload ≠ []) (small : payload.length ≤ 196) (s : Uplink.State) :
    Uplink.Admits s (classCommand sequence commandClass force auth payload) ↔
      Uplink.checkSequence s sequence = .new ∧ s.cfsHealthReceived = true ∧
      Uplink.healthRefuses s.cfsHealthState
        (classCommand sequence commandClass force auth payload) = false ∧
      Uplink.isAuthorized (classCommand sequence commandClass force auth payload)
        (Uplink.requestToken (classCommand sequence commandClass force auth payload)) = true := by
  have own : (classCommand sequence commandClass force auth payload).sequence = sequence := by
    rw [classCommand_eq]
    rfl
  constructor
  · intro admits
    have new := admits.new
    rw [own] at new
    exact ⟨new, admits.healthReceived, admits.healthy, admits.authorized⟩
  · rintro ⟨new, received, healthy, authorized⟩
    rw [← own] at new
    exact ⟨new, classCommand_valid known used small, received, healthy, authorized⟩

end

/-- The encodings of a diagnostic command agree. -/
theorem encodings_agree_diagnostic :
    ∃ packet, udpPacket 7 [0, 0, 0, 0, 0, 0] 6 1 0x40 = some packet ∧
      Forwards (lineOf 1 6 7 [0, 0, 0, 0, 0, 0] 0x40)
        (sentCommand 7 1 6 0x40 [0, 0, 0, 0, 0, 0]) := by
  have fits : Fits 7 1 6 0x40 [0, 0, 0, 0, 0, 0] := ⟨by decide, by decide, by decide, by decide,
    by decide⟩
  have built := (@udpPacket_eq_some 7 1 6 0x40 [0, 0, 0, 0, 0, 0] _).mpr ⟨fits, rfl⟩
  exact ⟨_, built, ((encodings_agree 7 1 6 0x40 [0, 0, 0, 0, 0, 0]).2 _ built).2.2.1 (by decide)⟩

end CfsTelemetry.Ground
