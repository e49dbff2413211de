import KeyCustody.Program
import KeyCustody.Proofs.Hexadecimal
import KeyCustody.Proofs.Service.Routing
import KeyCustody.Proofs.Settings.Resolution
import KeyCustody.Proofs.Text

/-!
# Written key pieces

Key pieces are handed out as text and copied by hand. A text is read as a key piece exactly if, blanks
at its ends aside, it spells at least two bytes of which the first is not zero. The piece is then written
as this text in lower case, and what is written for a piece is read back as this piece. So whatever is
printed when a root key is made can be submitted line by line.
-/

namespace KeyCustody

namespace KeyPiece

/-- A word that a key piece can be read from: two digits for each byte, and two bytes or more, the first
of which is not zero. -/
structure IsWritten (word : String) : Prop where
  even : Even word.length
  four_le : 4 ≤ word.length
  areDigits : ∀ character ∈ word.toList, Hexadecimal.IsDigit character
  notZero : ¬['0', '0'] <+: word.toList

theorem ofBytes_eq_ok_iff {bytes : ByteString} {piece : KeyPiece} :
    ofBytes bytes = .ok piece ↔ bytes = piece.toBytes := by
  constructor
  · intro read
    match bytes, read with
    | index :: first :: rest, read =>
        rw [ofBytes] at read
        split_ifs at read
        cases read
        rfl
  · rintro rfl
    exact ofBytes_toBytes piece

theorem exists_ofBytes_eq_ok_iff {bytes : ByteString} :
    (∃ piece, ofBytes bytes = .ok piece) ↔ 2 ≤ bytes.length ∧ bytes.head? ≠ some 0 := by
  match bytes with
  | [] => simp [ofBytes]
  | [_] => simp [ofBytes]
  | index :: first :: rest =>
      by_cases isZero : index = 0
      · simp [ofBytes, isZero]
      · simp [ofBytes, isZero]

theorem ofHexadecimal_eq_ok_iff {text : String} {piece : KeyPiece} :
    ofHexadecimal text = .ok piece ↔ Hexadecimal.Spells (Text.trim text).toList piece.toBytes := by
  rw [← Hexadecimal.bytes?_eq_some_iff]
  unfold ofHexadecimal Hexadecimal.decode?
  cases Hexadecimal.bytes? (Text.trim text).toList with
  | none => simp
  | some bytes => simp [ofBytes_eq_ok_iff]

theorem worth_eq_zero_iff {character : Char} (isDigit : Hexadecimal.IsDigit character) :
    Hexadecimal.worth character = 0 ↔ character = '0' := by
  revert isDigit character
  unfold Hexadecimal.IsDigit
  rw [← List.forall_iff_forall_mem]
  decide

/-- The first byte that is spelled is zero exactly if the word starts with two zeros. -/
theorem head?_eq_zero_iff {characters : List Char} {bytes : ByteString}
    (spells : Hexadecimal.Spells characters bytes) :
    bytes.head? = some 0 ↔ ['0', '0'] <+: characters := by
  cases spells with
  | nil => simp
  | @cons high low byte _ _ high_isDigit low_isDigit byte_eq _ =>
      rw [List.head?_cons, Option.some_inj, ← UInt8.toNat_inj, byte_eq]
      simp only [List.cons_prefix_cons, List.nil_prefix, and_true,
        eq_comm (a := '0'), ← worth_eq_zero_iff high_isDigit, ← worth_eq_zero_iff low_isDigit]
      simp

/-- A word spells a key piece exactly if it has the form of one. -/
theorem exists_ofHexadecimal_eq_ok_iff {text : String} :
    (∃ piece, ofHexadecimal text = .ok piece) ↔ IsWritten (Text.trim text) := by
  simp only [ofHexadecimal_eq_ok_iff]
  constructor
  · rintro ⟨piece, spells⟩
    rcases Hexadecimal.exists_spells_iff.mp ⟨_, spells⟩ with ⟨even, areDigits⟩
    rcases exists_ofBytes_eq_ok_iff.mp ⟨piece, ofBytes_toBytes piece⟩ with ⟨two_le, head_ne⟩
    refine ⟨even, ?_, areDigits, fun isZero => head_ne ((head?_eq_zero_iff spells).mpr isZero)⟩
    have length_eq := spells.length_eq
    rw [String.length_toList] at length_eq
    omega
  · rintro ⟨even, four_le, areDigits, notZero⟩
    rcases Hexadecimal.exists_spells_iff.mpr ⟨even, areDigits⟩ with ⟨bytes, spells⟩
    have length_eq := spells.length_eq
    rw [String.length_toList] at length_eq
    have two_le : 2 ≤ bytes.length := by omega
    rcases exists_ofBytes_eq_ok_iff.mpr ⟨two_le, notZero ∘ (head?_eq_zero_iff spells).mp⟩ with
      ⟨piece, read⟩
    rw [ofBytes_eq_ok_iff] at read
    exact ⟨piece, read ▸ spells⟩

theorem toHexadecimal_of_read {text : String} {piece : KeyPiece}
    (read : ofHexadecimal text = .ok piece) :
    piece.toHexadecimal = Text.lowercase (Text.trim text) := by
  rw [toHexadecimal, Hexadecimal.encode, (ofHexadecimal_eq_ok_iff.mp read).digits_eq, Text.lowercase]

theorem isDigit_of_mem_toHexadecimal {piece : KeyPiece} {character : Char}
    (character_mem : character ∈ piece.toHexadecimal.toList) : Hexadecimal.IsDigit character := by
  have spells := Hexadecimal.bytes?_eq_some_iff.mp (Hexadecimal.bytes?_digits piece.toBytes)
  apply (Hexadecimal.exists_spells_iff.mp ⟨_, spells⟩).2
  simpa [toHexadecimal, Hexadecimal.encode] using character_mem

theorem not_isBlank_of_isDigit :
    ∀ character, Hexadecimal.IsDigit character → Text.isBlank character = false := by
  unfold Hexadecimal.IsDigit
  rw [← List.forall_iff_forall_mem]
  decide

/-- A digit is no blank, so there is nothing to be trimmed off a written piece. -/
theorem trim_toHexadecimal (piece : KeyPiece) :
    Text.trim piece.toHexadecimal = piece.toHexadecimal := by
  have trimmed_eq : Text.trimChars piece.toHexadecimal.toList = piece.toHexadecimal.toList := by
    apply Text.trimChars_eq_self
    · intro character head_eq
      apply not_isBlank_of_isDigit
      exact isDigit_of_mem_toHexadecimal (List.mem_of_mem_head? head_eq)
    · intro character last_eq
      apply not_isBlank_of_isDigit
      exact isDigit_of_mem_toHexadecimal (List.mem_of_getLast? last_eq)
  rw [Text.trim, trimmed_eq, String.ofList_toList]

theorem ofHexadecimal_toHexadecimal (piece : KeyPiece) :
    ofHexadecimal piece.toHexadecimal = .ok piece := by
  rw [ofHexadecimal, trim_toHexadecimal, toHexadecimal, Hexadecimal.decode?_encode]
  exact ofBytes_toBytes piece

theorem toHexadecimal_inj {left right : KeyPiece} :
    left.toHexadecimal = right.toHexadecimal ↔ left = right := by
  constructor
  · intro same
    have read := ofHexadecimal_toHexadecimal left
    rw [same, ofHexadecimal_toHexadecimal] at read
    exact (Except.ok.inj read).symm
  · exact congrArg toHexadecimal

end KeyPiece

namespace Program

/-- The lines of a text, each of which ends with a line feed. -/
def lines (text : String) : List String :=
  (text.toList.splitOn '\n').dropLast.map String.ofList

theorem lines_join {texts : List String} (areLines : ∀ text ∈ texts, '\n' ∉ text.toList) :
    lines (String.join (texts.map (· ++ "\n"))) = texts := by
  have split_eq : (String.join (texts.map (· ++ "\n"))).toList.splitOn '\n' =
      texts.map String.toList ++ [[]] := by
    induction texts with
    | nil => rfl
    | cons text rest ih =>
        simp only [List.mem_cons, forall_eq_or_imp] at areLines
        rw [List.map_cons, String.join_cons, String.toList_append, String.toList_append,
          List.append_assoc]
        change (text.toList ++ '\n' :: (String.join (rest.map (· ++ "\n"))).toList).splitOn '\n' = _
        rw [List.splitOn_append_cons_self_of_not_mem areLines.1, ih areLines.2]
        rfl
  rw [lines, split_eq, List.dropLast_concat, List.map_map]
  simp [Function.comp_def]

section

variable {Supply : Type} [ByteSupply Supply]

/-- What a run prints that makes a root key are the pieces of the key. -/
theorem exists_pieces_of_printed {directory : Directory} {given : Variables}
    {arguments : List String} {supply : Supply} {listen : String → Option ListenFault}
    {settingsPath : Option String} {total threshold : Option UInt8} {output : String}
    (asked : commandLine given arguments = .run settingsPath (.initialise total threshold))
    (printed : (run directory given arguments supply listen).1 = .printed output) :
    ∃ pieces : List KeyPiece,
      output = String.join ((pieces.map KeyPiece.toHexadecimal).map (· ++ "\n")) := by
  rw [run, asked] at printed
  unfold runCommand at printed
  dsimp only at printed
  split at printed
  · cases printed
  · split at printed
    · cases printed
    · split at printed
      · cases printed
      · unfold carryOut at printed
        dsimp only at printed
        split at printed
        · cases printed
        · rename_i pieces made
          cases printed
          exact ⟨pieces, by rw [List.map_map]; rfl⟩

end

end Program

namespace KeyPiece

/-- A text is read as a key piece exactly if, blanks at its ends aside, it has the form of one, and then
the piece is what the text spells and is written as the text in lower case. Any other is refused as
invalid input. A piece that is written, in text or in bytes, is read back as it was, and different pieces
are written differently. So each line that is printed when a root key is made can be submitted. -/
theorem text_codec {Supply : Type} [ByteSupply Supply] :
    (∀ text, (∃ piece, ofHexadecimal text = .ok piece) ↔ IsWritten (Text.trim text)) ∧
    (∀ text piece, ofHexadecimal text = .ok piece →
      Hexadecimal.Spells (Text.trim text).toList (piece.index :: piece.data) ∧
        piece.toHexadecimal = Text.lowercase (Text.trim text)) ∧
    (∀ text, ¬IsWritten (Text.trim text) → ∃ error, ofHexadecimal text = .error error ∧
      ∀ request : Request, request.shareText? = some text → Server.submittedPiece request =
        .error (ServerError.custody (.invalidInput error.message)).toResponse) ∧
    (∀ piece : KeyPiece,
      (∃ read, ofHexadecimal piece.toHexadecimal = .ok read ∧ read.sameAs piece = true) ∧
      ∃ read, ofBytes piece.toBytes = .ok read ∧ read.sameAs piece = true) ∧
    (∀ left right : KeyPiece,
      left.toHexadecimal = right.toHexadecimal ↔ left.sameAs right = true) ∧
    ∀ directory given arguments (supply : Supply) listen settingsPath total threshold output,
      Program.commandLine given arguments = .run settingsPath (.initialise total threshold) →
      (Program.run directory given arguments supply listen).1 = .printed output →
      output = String.join ((Program.lines output).map (· ++ "\n")) ∧
      ∀ line ∈ Program.lines output, ∃ piece, ofHexadecimal line = .ok piece ∧
        piece.toHexadecimal = line ∧ ∀ request : Request, request.shareText? = some line →
          Server.submittedPiece request = .ok piece := by
  refine ⟨fun text => exists_ofHexadecimal_eq_ok_iff, ?_, ?_, ?_, ?_, ?_⟩
  · intro text piece read
    exact ⟨ofHexadecimal_eq_ok_iff.mp read, toHexadecimal_of_read read⟩
  · intro text notWritten
    cases read : ofHexadecimal text with
    | ok piece => exact absurd (exists_ofHexadecimal_eq_ok_iff.mp ⟨piece, read⟩) notWritten
    | error error =>
        refine ⟨error, rfl, ?_⟩
        intro request shareText_eq
        rw [Server.submittedPiece_of_text shareText_eq, read]
        rfl
  · intro piece
    exact ⟨⟨piece, ofHexadecimal_toHexadecimal piece, sameAs_iff.mpr rfl⟩,
      piece, ofBytes_toBytes piece, sameAs_iff.mpr rfl⟩
  · intro left right
    rw [toHexadecimal_inj, sameAs_iff]
  · intro directory given arguments supply listen settingsPath total threshold output asked printed
    rcases Program.exists_pieces_of_printed asked printed with ⟨pieces, rfl⟩
    have areLines : ∀ text ∈ pieces.map toHexadecimal, '\n' ∉ text.toList := by
      intro text text_mem lineFeed_mem
      rcases List.mem_map.mp text_mem with ⟨piece, _, rfl⟩
      exact absurd (isDigit_of_mem_toHexadecimal lineFeed_mem) (by decide)
    rw [Program.lines_join areLines]
    refine ⟨rfl, ?_⟩
    intro line line_mem
    rcases List.mem_map.mp line_mem with ⟨piece, _, rfl⟩
    refine ⟨piece, ofHexadecimal_toHexadecimal piece, rfl, ?_⟩
    intro request shareText_eq
    rw [Server.submittedPiece_of_text shareText_eq, ofHexadecimal_toHexadecimal]

/-- A copied piece with blanks around it, one whose index is zero, and a root key of two pieces. -/
theorem text_codec_of_copied :
    (∃ piece, ofHexadecimal "\t0aFf00 \n" = .ok piece ∧ piece.toHexadecimal = "0aff00") ∧
    (∃ error, ofHexadecimal "00ff" = .error error) ∧
    ∃ output, (Program.run ⟨"/srv", []⟩ [] ["init", "--shares", "2", "--threshold", "2"]
        (ByteTape.mk [7]) fun _ => none).1 = .printed output ∧
      ∀ line ∈ Program.lines output, ∃ piece, ofHexadecimal line = .ok piece := by
  have asked : Program.commandLine [] ["init", "--shares", "2", "--threshold", "2"] =
      .run none (.initialise (some 2) (some 2)) := by
    decide +kernel
  have settings_eq : Program.settings ⟨"/srv", []⟩ [] none = .ok Settings.defaults := by
    rw [Program.settings, Settings.load_eq]
    decide +kernel
  have connected : Directory.connect ⟨"/srv", []⟩ Settings.defaults.databaseUrl =
      (.ok ⟨⟨none, true, false⟩, some "warden.db"⟩, ⟨"/srv", [("warden.db", .database none)]⟩) := by
    decide +kernel
  have made : ∃ output, (Program.carryOut Settings.defaults (.initialise (some 2) (some 2))
      ⟨some ⟨true, none⟩, true, false⟩ (ByteTape.mk [7]) fun _ => none).1 = .printed output := by
    have isMade : (bootstrap (SharedStore.ofStore (.database ⟨some ⟨true, none⟩, true, false⟩)) ⟨2, 2⟩
        (ByteTape.mk [7])).result.isOk = true := by
      decide +kernel
    rw [Program.carryOut]
    dsimp only [Option.getD_some]
    split
    · rename_i error result_eq
      rw [result_eq] at isMade
      cases isMade
    · exact ⟨_, rfl⟩
  have printed : ∃ output, (Program.run ⟨"/srv", []⟩ [] ["init", "--shares", "2", "--threshold", "2"]
      (ByteTape.mk [7]) fun _ => none).1 = .printed output := by
    rw [Program.run, asked]
    dsimp only
    rw [Program.runCommand, settings_eq]
    dsimp only
    rw [connected]
    exact made
  rcases @text_codec ByteTape _ with ⟨reads_iff, written, refused, _, _, submits⟩
  refine ⟨?_, ?_, ?_⟩
  · have isWritten : IsWritten (Text.trim "\t0aFf00 \n") :=
      ⟨by decide, by decide, List.forall_iff_forall_mem.mp (by decide), by decide⟩
    rcases (reads_iff "\t0aFf00 \n").mpr isWritten with ⟨piece, read⟩
    refine ⟨piece, read, ?_⟩
    rw [(written _ piece read).2]
    decide
  · rcases refused "00ff" (fun isWritten => isWritten.notZero (by decide)) with ⟨error, read, _⟩
    exact ⟨error, read⟩
  · rcases printed with ⟨output, printed⟩
    refine ⟨output, printed, ?_⟩
    intro line line_mem
    rcases (submits _ _ _ _ _ _ _ _ output asked printed).2 line line_mem with ⟨piece, read, _⟩
    exact ⟨piece, read⟩

end KeyPiece

end KeyCustody
