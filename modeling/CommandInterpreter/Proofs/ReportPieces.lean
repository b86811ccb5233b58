import CommandInterpreter.Proofs.EncodedText
import CommandInterpreter.Proofs.StreamContents
import CommandInterpreter.Session
set_option autoImplicit false

/-!
The pieces of a report. One after the other they make up its text, so a stream that takes bytes in
order up to a limit shows the same of both.
-/

namespace CommandInterpreter

namespace Text

theorem flatMap_encode_pair (first second : String) :
    [first, second].flatMap encode = encode (first ++ second) := by
  simp [encode_append]

theorem encode_intercalate (separator : String) (texts : List String) :
    encode (separator.intercalate texts) = (encode separator).intercalate (texts.map encode) := by
  induction texts with
  | nil => rfl
  | cons text rest ih =>
      cases rest with
      | nil => simp
      | cons next rest =>
          rw [String.intercalate_cons_cons, encode_append, encode_append, ih]
          simp [List.intercalate_cons_cons]

theorem flatMap_encode_intercalate (separator : List String) (texts : List (List String)) :
    (separator.intercalate texts).flatMap encode =
      (separator.flatMap encode).intercalate (texts.map (·.flatMap encode)) := by
  induction texts with
  | nil => rfl
  | cons text rest ih =>
      cases rest with
      | nil => simp
      | cons next rest =>
          rw [List.intercalate_cons_cons, List.flatMap_append, List.flatMap_append, ih]
          simp [List.intercalate_cons_cons]

end Text

theorem IoError.flatMap_encode_pieces (error : IoError) :
    error.pieces.flatMap Text.encode = Text.encode error.message := by
  cases error with
  | os error =>
      rw [message, OsError.message, Text.encode_append, Text.encode_append, Text.encode_append]
      simp only [pieces, List.flatMap_cons, List.flatMap_nil, List.append_nil, List.append_assoc]
  | _ => exact List.flatMap_singleton _ _

theorem LaunchError.flatMap_encode_headlinePieces (error : LaunchError) :
    error.headlinePieces.flatMap Text.encode = Text.encode error.headline := by
  cases error with
  | notFound program => exact Text.flatMap_encode_pair program _
  | spawn program cause => exact Text.flatMap_encode_pair _ program
  | wait program cause => exact Text.flatMap_encode_pair _ program

namespace Failure

theorem map_encode_causePieces (failure : Failure) :
    failure.causePieces.map (·.flatMap Text.encode) = failure.causes.map Text.encode := by
  induction failure with
  | launch error =>
      have caused : (error.cause?.toList.map IoError.pieces).map (·.flatMap Text.encode) =
          (error.cause?.toList.map IoError.message).map Text.encode := by
        simp [IoError.flatMap_encode_pieces]
      simp only [causePieces, causes, LaunchError.causePieces, LaunchError.causes, List.map_cons,
        LaunchError.flatMap_encode_headlinePieces, caused]
  | io error => simp [causePieces, causes, IoError.flatMap_encode_pieces]
  | missingTarget => rfl
  | stated text => simp [causePieces, causes]
  | within context cause ih => simp [causePieces, causes, ih]

theorem flatMap_encode_pieces (failure : Failure) :
    failure.pieces.flatMap Text.encode = Text.encode failure.message := by
  rw [pieces, Text.flatMap_encode_intercalate, map_encode_causePieces, message,
    Text.encode_intercalate, List.flatMap_singleton]

end Failure

theorem Session.flatten_reportPieces (failure : Failure) :
    ((reportPieces failure).map Text.encode).flatten = Text.encode (reportText failure) := by
  rw [← List.flatMap_def, reportPieces, List.flatMap_append, List.flatMap_append,
    Failure.flatMap_encode_pieces, Text.flatMap_encode_pair, List.flatMap_singleton,
    ← Text.encode_append, ← Text.encode_append, reportText]

/-- A stream shows the text of a report as if it were written in one piece. -/
theorem Stream.Shows.writeReport {stream : Stream} {limit : Option Nat} {written : Bytes}
    (shows : stream.Shows limit written) (failure : Failure) :
    ∃ result next,
      stream.writePieces ((Session.reportPieces failure).map Text.encode) = (result, next) ∧
      next.Shows limit (written ++ Text.encode (Session.reportText failure)) ∧
      (result = .ok () ∨ Reached limit (written ++ Text.encode (Session.reportText failure))) := by
  rw [← Session.flatten_reportPieces]
  exact shows.writePieces _

end CommandInterpreter
