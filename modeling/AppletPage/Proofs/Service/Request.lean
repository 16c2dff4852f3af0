import AppletPage.Proofs.Text.Utf8
import AppletPage.Service.Request

/-! Queries of plain characters, which mean themselves. -/

namespace AppletPage

open Text

structure IsPlain (c : Char) : Prop where
  noMark : c ≠ '&'
  noEquals : c ≠ '='
  noPlus : c ≠ '+'
  noPercent : c ≠ '%'

theorem Text.splitAt_of_unmarked {mark : Char} {text : List Char}
    (unmarked : ∀ c ∈ text, c ≠ mark) : splitAt mark text = [text] := by
  induction text with
  | nil => rfl
  | cons c rest ih =>
      rw [splitAt, if_neg (unmarked c List.mem_cons_self),
        ih fun other member => unmarked other (List.mem_cons_of_mem c member)]

namespace Text.Percent

theorem decodeBytes_cons {c : Char} (plain : c ≠ '%') (rest : List Char) :
    decodeBytes (c :: rest) = Utf8.encodeChar c ++ decodeBytes rest := by
  conv => lhs; unfold decodeBytes
  split
  · next given => exact absurd (List.cons.inj given).1 plain
  · next given => cases given; rfl
  · next given => cases given

theorem decode_of_plain {text : List Char} (plain : ∀ c ∈ text, c ≠ '%') :
    decode text = String.ofList text := by
  have bytes : decodeBytes text = Utf8.encodeChars text := by
    induction text with
    | nil => rfl
    | cons c rest ih =>
        rw [decodeBytes_cons (plain c List.mem_cons_self),
          ih fun other member => plain other (List.mem_cons_of_mem c member)]
        rfl
  rw [decode, bytes, Utf8.decodeLossy_encodeChars]

end Text.Percent

namespace Request

theorem decodePart_of_plain {text : List Char} (plain : ∀ c ∈ text, IsPlain c) :
    decodePart text = String.ofList text := by
  have kept : text.map (fun c => if c = '+' then ' ' else c) = text := by
    refine (List.map_congr_left fun c member => ?_).trans (List.map_id text)
    rw [if_neg (plain c member).noPlus]
    rfl
  rw [decodePart, kept, Percent.decode_of_plain fun c member => (plain c member).noPercent]

theorem takeWhile_pair {name : List Char} (plain : ∀ c ∈ name, IsPlain c) (value : List Char) :
    (name ++ '=' :: value).takeWhile (· ≠ '=') = name := by
  rw [List.takeWhile_append_of_pos fun c member => decide_eq_true (plain c member).noEquals,
    List.takeWhile_cons_of_neg (by decide), List.append_nil]

theorem dropWhile_pair {name : List Char} (plain : ∀ c ∈ name, IsPlain c) (value : List Char) :
    (name ++ '=' :: value).dropWhile (· ≠ '=') = '=' :: value := by
  rw [List.dropWhile_append_of_pos fun c member => decide_eq_true (plain c member).noEquals,
    List.dropWhile_cons_of_neg (by decide)]

theorem parameter?_pair {request : Request} {name value : String}
    (query : request.query = some (name ++ "=" ++ value))
    (plainName : ∀ c ∈ name.toList, IsPlain c) (plainValue : ∀ c ∈ value.toList, IsPlain c) :
    request.parameter? name = some value := by
  have chars : (name ++ "=" ++ value).toList = name.toList ++ '=' :: value.toList := by
    simp
  have unmarked : ∀ c ∈ name.toList ++ '=' :: value.toList, c ≠ '&' := by
    intro c member
    rcases List.mem_append.mp member with inName | inRest
    · exact (plainName c inName).noMark
    · rcases List.mem_cons.mp inRest with rfl | inValue
      · decide
      · exact (plainValue c inValue).noMark
  have single : pairs (name ++ "=" ++ value) = [(name, value)] := by
    rw [pairs, chars, splitAt_of_unmarked unmarked,
      List.filter_cons_of_pos (by simp), List.filter_nil, List.map_cons, List.map_nil, decodePair,
      takeWhile_pair plainName, dropWhile_pair plainName, List.drop_one, List.tail_cons,
      decodePart_of_plain plainName, decodePart_of_plain plainValue, String.ofList_toList,
      String.ofList_toList]
  rw [parameter?, query, Option.getD_some, single]
  simp

end Request

end AppletPage
