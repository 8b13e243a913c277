/-
# Queries for a series

A query for points names a device and a time from which on they are wanted.  A plus sign in a query
is a space, so the time of a place to the east of universal time has to be sent with its sign
encoded; then each time is read as its instant, in whichever order the two parameters stand.  With a
bare plus sign it is not read as another instant: a time with a space where its offset should be is
none, and the request is answered with 400 (`start_time_is_never_mistaken`).
-/

import SoilWatch.Http.Routes
import SoilWatch.Proofs.Text.Form
import SoilWatch.Proofs.Text.Integer
import SoilWatch.Proofs.Time.WallClock

namespace SoilWatch

open Time (Distance Instant LocalTime Zone)

namespace Wire

variable {s : Shape} {d d' : Draft} {name value : String} {pairs : List (String × String)}

/-- A declared name that is new takes the value that its text gives. -/
theorem takePair_of_field {f : Field} (hfield : s.field? f.name = some f)
    (hnew : d.get? f.name = none) : takePair s d f.name value =
      match datumOfText f.kind value with
      | .ok v => .ok (d.add f.name v)
      | .error e => .error (failAt f.name e) := by
  unfold takePair
  rw [hfield]
  dsimp only
  rw [hnew]
  exact if_neg (by simp)

theorem takePairs_cons_of_ok (h : takePair s d name value = .ok d') :
    takePairs s d ((name, value) :: pairs) = takePairs s d' pairs := by
  rw [takePairs, h]

theorem takePairs_cons_of_error {e : Json.Failure} (h : takePair s d name value = .error e) :
    takePairs s d ((name, value) :: pairs) = .error e := by
  rw [takePairs, h]

end Wire

namespace SeriesQuery

open Wire (Draft takePair takePairs_cons_of_ok takePairs_cons_of_error)

variable {device start : String} {n : Int} {bs : Octets}

theorem takePair_device {draft : Draft} (hnew : draft.get? "deviceId" = none)
    (h : Text.readInteger .int64 device.toList = .ok n) :
    takePair format.shape draft "deviceId" device = .ok (draft.add "deviceId" (.integer n)) := by
  have hpair : takePair format.shape draft "deviceId" device = _ :=
    Wire.takePair_of_field (f := ⟨"deviceId", .integer⟩) rfl hnew
  rw [hpair, Wire.datumOfText, h]

theorem takePair_start (draft : Draft) (start : String) (hnew : draft.get? "startTime" = none) :
    takePair format.shape draft "startTime" start =
      match Instant.parse start with
      | .ok t => .ok (draft.add "startTime" (.instant t))
      | .error e => .error (Wire.failAt "startTime" (.refused e.message)) := by
  have hpair : takePair format.shape draft "startTime" start = _ :=
    Wire.takePair_of_field (f := ⟨"startTime", .instant⟩) rfl hnew
  rw [hpair, Wire.datumOfText]
  cases Instant.parse start <;> rfl

/-- **What a query gives that names a device and a time,** in either order. -/
theorem readQuery_of_pairs (hdevice : Text.readInteger .int64 device.toList = .ok n)
    (hpairs : Text.Form.pairs bs = [("deviceId", device), ("startTime", start)] ∨
      Text.Form.pairs bs = [("startTime", start), ("deviceId", device)]) :
    format.readQuery bs =
      match Instant.parse start with
      | .ok t => .ok ⟨n, t⟩
      | .error e => .error (Wire.failAt "startTime" (.refused e.message)) := by
  rw [Wire.Format.readQuery]
  rcases hpairs with h | h
  · have hstart := takePair_start (Draft.empty.add "deviceId" (.integer n)) start rfl
    rw [h, takePairs_cons_of_ok (takePair_device rfl hdevice)]
    cases hparse : Instant.parse start with
    | ok t =>
      rw [hparse] at hstart
      rw [takePairs_cons_of_ok hstart]
      rfl
    | error e =>
      rw [hparse] at hstart
      rw [takePairs_cons_of_error hstart]
  · have hstart := takePair_start .empty start rfl
    rw [h]
    cases hparse : Instant.parse start with
    | ok t =>
      rw [hparse] at hstart
      rw [takePairs_cons_of_ok hstart, takePairs_cons_of_ok (takePair_device rfl hdevice)]
      rfl
    | error e =>
      rw [hparse] at hstart
      rw [takePairs_cons_of_error hstart]

/-- The texts of a query with a device and a time as it is sent, in either order. -/
def texts (n : Int) (start : List Char) : List String :=
  ["deviceId=" ++ toString n ++ "&startTime=" ++ String.ofList start,
    "startTime=" ++ String.ofList start ++ "&deviceId=" ++ toString n]

theorem toList_repr (n : Int) : n.repr.toList = Json.integerChars n := by
  cases n <;> simp [Int.repr, Nat.repr, Json.integerChars]

/-- The digits of an integer stand for themselves. -/
theorem encodes_toString (n : Int) :
    Text.Form.Encodes (Text.Utf8.encode (toString n)) (Json.integerChars n) := by
  have hdigits : ∀ k, ∀ c ∈ Nat.toDigits 10 k, Text.Form.isPlain c := fun k c hc =>
    Text.Form.isPlain_of_isDigit ((Text.isDigits_toDigits k).2 c hc)
  have hplain : ∀ c ∈ Json.integerChars n, Text.Form.isPlain c := by
    cases n with
    | ofNat n => exact hdigits n
    | negSucc n => exact List.forall_mem_cons.2 ⟨by decide, hdigits (n + 1)⟩
  have htext : toString n = String.ofList (Json.integerChars n) := by
    rw [← toList_repr, String.ofList_toList]
    rfl
  rw [htext]
  exact Text.Form.encodes_self hplain

/-- **What is read from a query with a device and a time,** however the time is encoded. -/
theorem readQuery_texts (hn : Text.IntegerRange.int64.contains n) {cs : List Char}
    (hstart : Text.Form.Encodes (Text.Utf8.encode start) cs) {query : String}
    (hquery : query ∈ texts n cs) : format.readQuery (Text.Utf8.encode query) =
      match Instant.parse start with
      | .ok t => .ok ⟨n, t⟩
      | .error e => .error (Wire.failAt "startTime" (.refused e.message)) := by
  have hdevice : Text.readInteger .int64 n.repr.toList = .ok n := by
    rw [toList_repr]
    exact Text.readInteger_integerChars (by decide) hn
  have hdeviceId : Text.Form.Encodes (Text.Utf8.encode "deviceId") "deviceId".toList :=
    Text.Form.encodes_self (by simp [Text.Form.isPlain])
  have hstartTime : Text.Form.Encodes (Text.Utf8.encode "startTime") "startTime".toList :=
    Text.Form.encodes_self (by simp [Text.Form.isPlain])
  have hn := encodes_toString n
  simp only [texts, List.mem_cons, List.not_mem_nil, or_false] at hquery
  rcases hquery with rfl | rfl
  · have hchars : "deviceId=" ++ toString n ++ "&startTime=" ++ String.ofList cs = String.ofList
        (("deviceId".toList ++ '=' :: Json.integerChars n) ++ '&' ::
          ("startTime".toList ++ '=' :: cs)) :=
      String.toList_inj.1 (by simp [toList_repr])
    rw [hchars, readQuery_of_pairs hdevice
      (.inl (Text.Form.pairs_of_two hdeviceId hn hstartTime hstart))]
  · have hchars : "startTime=" ++ String.ofList cs ++ "&deviceId=" ++ toString n = String.ofList
        (("startTime".toList ++ '=' :: cs) ++ '&' ::
          ("deviceId".toList ++ '=' :: Json.integerChars n)) :=
      String.toList_inj.1 (by simp [toList_repr])
    rw [hchars, readQuery_of_pairs hdevice
      (.inr (Text.Form.pairs_of_two hstartTime hstart hdeviceId hn))]

end SeriesQuery

namespace Time

/-- The characters of an offset in a query: a plus sign has to be encoded. -/
def Zone.queryChars : Zone → List Char
  | .east d => '%' :: '2' :: 'B' :: d.chars
  | z => z.chars

theorem isPlain_of_mem_padded {width n : Nat} :
    ∀ c ∈ padded width n, Text.Form.isPlain c := fun _ h =>
  Text.Form.isPlain_of_isDigit (isDigit_of_mem_padded h)

theorem Distance.isPlain_chars (d : Distance) : ∀ c ∈ d.chars, Text.Form.isPlain c := by
  simp only [chars, List.forall_mem_append, List.forall_mem_cons]
  exact ⟨isPlain_of_mem_padded, by decide, isPlain_of_mem_padded⟩

namespace LocalTime

variable (w : LocalTime)

theorem isPlain_chars : ∀ c ∈ w.chars, Text.Form.isPlain c := by
  have hfraction : ∀ c ∈ w.fraction.chars, Text.Form.isPlain c := by
    unfold Fraction.chars
    split
    · exact fun _ h => absurd h List.not_mem_nil
    · exact List.forall_mem_cons.2 ⟨by decide, isPlain_of_mem_padded⟩
  have hletter : Text.Form.isPlain w.letter := by
    rcases w.letter_eq with h | h <;> rw [h] <;> decide
  simp only [chars, List.forall_mem_append, List.forall_mem_cons]
  exact ⟨isPlain_of_mem_padded, by decide, isPlain_of_mem_padded, by decide,
    isPlain_of_mem_padded, hletter, isPlain_of_mem_padded, by decide, isPlain_of_mem_padded,
    by decide, isPlain_of_mem_padded, hfraction⟩

/-- A local time with its offset, as it is sent. -/
theorem encodes_queryChars (z : Zone) :
    Text.Form.Encodes (Text.Utf8.encode (String.ofList (w.chars ++ z.chars)))
      (w.chars ++ z.queryChars) := by
  refine Text.Form.encodes_ofList_append (Text.Form.encodes_self w.isPlain_chars) ?_
  cases z with
  | universal letter h =>
    refine Text.Form.encodes_self (List.forall_mem_singleton.2 ?_)
    rcases h with rfl | rfl <;> decide
  | west d => exact Text.Form.encodes_self (List.forall_mem_cons.2 ⟨by decide, d.isPlain_chars⟩)
  | east d =>
    have hplus : Text.Form.Encodes [UInt8.ofNat (2 * 16 + 11)] ['%', '2', 'B'] :=
      .escaped (by decide) (by decide) rfl rfl .nil
    show Text.Form.Encodes (Text.Utf8.encode (String.ofList (['+'] ++ d.chars)))
      (['%', '2', 'B'] ++ d.chars)
    exact Text.Form.encodes_ofList_append hplus (Text.Form.encodes_self d.isPlain_chars)

/-- With a bare plus sign in the place of an encoded one, a space is sent. -/
theorem encodes_plus (d : Distance) :
    Text.Form.Encodes (Text.Utf8.encode (String.ofList (w.chars ++ ' ' :: d.chars)))
      (w.chars ++ '+' :: d.chars) := by
  have hspace : Text.Form.Encodes (Text.Utf8.encode (String.ofList [' '])) ['+'] := .space .nil
  have hspaced := Text.Form.encodes_ofList_append hspace (Text.Form.encodes_self d.isPlain_chars)
  exact Text.Form.encodes_ofList_append (Text.Form.encodes_self w.isPlain_chars) hspaced

end LocalTime
end Time

namespace Http

/-- A query without an answer from its format is answered at once. -/
theorem getSeries_of_unread {r : Request} {e : Json.Failure}
    (h : SeriesQuery.format.readQuery r.query = .error e) (setup : Setup) (cx : Context)
    (user : User) (key : Measurement) : getSeries setup cx user key r =
      pure (.ofText 400 ("Failed to deserialize query string: " ++ e.message)) := by
  rw [getSeries, readQuery, h]
  rfl

/-- **A query for a series is never read with another time than was meant.**  Any local time with any
offset, sent so that a plus sign is encoded, is read as the one instant that it shows; with a bare
plus sign it is refused, by the format and by the handler. -/
theorem start_time_is_never_mistaken {n : Int} (hn : Text.IntegerRange.int64.contains n)
    (w : LocalTime) :
    (∀ z : Zone, ∃ t : Instant, (∀ t' : Instant, t'.Shows z.seconds w ↔ t' = t) ∧
      ∀ query ∈ SeriesQuery.texts n (w.chars ++ z.queryChars),
        SeriesQuery.format.readQuery (Text.Utf8.encode query) = .ok ⟨n, t⟩) ∧
    ∀ d : Distance, ∀ query ∈ SeriesQuery.texts n (w.chars ++ '+' :: d.chars),
      SeriesQuery.format.readQuery (Text.Utf8.encode query) =
          .error (Wire.failAt "startTime" (.refused Time.ReadFault.invalid.message)) ∧
        ∃ answer : Response, answer.status = 400 ∧
          ∀ setup cx user key r, r.query = Text.Utf8.encode query →
            getSeries setup cx user key r = pure answer := by
  constructor
  · intro z
    have hparse : Instant.parse (String.ofList (w.chars ++ z.chars)) = .ok (w.instant z) := by
      rw [Instant.parse, String.toList_ofList, w.read_chars]
    refine ⟨w.instant z, fun t' => LocalTime.shows_iff, fun query hquery => ?_⟩
    rw [SeriesQuery.readQuery_texts hn (w.encodes_queryChars z) hquery, hparse]
  · intro d query hquery
    -- The bare plus sign reaches the reader of times as a space.
    have hparse : Instant.parse (String.ofList (w.chars ++ ' ' :: d.chars)) = .error .invalid := by
      rw [Instant.parse, String.toList_ofList, w.read_signless]
    have hread := SeriesQuery.readQuery_texts hn (w.encodes_plus d) hquery
    rw [hparse] at hread
    have hanswer := fun setup cx user key r (hr : Request.query r = Text.Utf8.encode query) =>
      getSeries_of_unread (hr ▸ hread) setup cx user key
    exact ⟨hread, _, rfl, hanswer⟩

/-- Half a second before the end of a leap day. -/
def leapDayEnd : LocalTime where
  date := ⟨2024, 2, 29⟩
  hour := 23
  minute := 59
  second := 59
  fraction := ⟨1, 5, by decide, by decide⟩
  letter := 'T'
  valid := by decide
  year_bounds := by decide
  hour_le := by decide
  minute_le := by decide
  second_le := by decide
  letter_eq := by decide

/-- Five hours and three quarters. -/
def eastward : Distance := ⟨5, 45, by decide, by decide⟩

/-- A request of who forgot to encode the sign. -/
def carelessRequest : Request :=
  ⟨"GET", "/data/capacitance?startTime=2024-02-29T23:59:59.5+05:45&deviceId=-7", [], []⟩

/-- The end of a leap day in the east is asked for; with a bare plus sign nothing is. -/
theorem leap_day_end_is_read_or_refused :
    (∃ t : Instant, t.Shows 20700 leapDayEnd ∧ SeriesQuery.format.readQuery
      (Text.Utf8.encode "deviceId=-7&startTime=2024-02-29T23:59:59.5%2B05:45") = .ok ⟨-7, t⟩) ∧
    ∃ answer : Response, answer.status = 400 ∧ ∀ setup cx user key,
      getSeries setup cx user key carelessRequest = pure answer := by
  have hn : Text.IntegerRange.int64.contains (-7) := by decide
  obtain ⟨hread, hrefused⟩ := start_time_is_never_mistaken hn leapDayEnd
  constructor
  · obtain ⟨t, hshows, hquery⟩ := hread (.east eastward)
    exact ⟨t, (hshows t).2 rfl, hquery _ (by decide +kernel)⟩
  · have hquery : "startTime=2024-02-29T23:59:59.5+05:45&deviceId=-7" ∈
        SeriesQuery.texts (-7) (leapDayEnd.chars ++ '+' :: eastward.chars) := by decide +kernel
    obtain ⟨-, answer, hstatus, hanswer⟩ := hrefused eastward _ hquery
    exact ⟨answer, hstatus, fun setup cx user key =>
      hanswer setup cx user key carelessRequest (by decide +kernel)⟩

end Http
end SoilWatch
