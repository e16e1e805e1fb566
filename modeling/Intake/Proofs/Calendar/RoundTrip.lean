import Intake.Proofs.Calendar.WrittenMail

/-!
# Every way to write a moment reads back

Whichever style a moment is written in, it is read, under either policy, as the instant of what the
text shows (`Moment.IsPossible.readDate_text`). So two texts for one instant are read alike. A date
that there is not is read in no style (`DateStyle.readDate_text_of_impossible`).
-/

namespace Intake.Calendar

/-- **A possible moment is read back from its text in every style.** -/
theorem Moment.IsPossible.readDate_text {m : Moment} (possible : m.IsPossible)
    (policy : DatePolicy) (style : Style) :
    readDate policy (style.text m) = .ok (style.shown m).instant := by
  cases style with
  | zoned separator zone => exact possible.readDate_zoned policy separator zone
  | zoneless separator seconds => exact possible.readDate_zoneless policy separator seconds
  | slashed => exact possible.readDate_slashed policy
  | mail named padded seconds => exact possible.readDate_mail policy named padded seconds
  | dateAlone style =>
    have read := DateStyle.readDate_text (possible.canWrite style) policy
    rw [possible.midnight.instant?_reading] at read
    exact read

/-- **A date that there is not is not recognised in any style.** -/
theorem DateStyle.readDate_text_of_impossible {style : DateStyle} {date : Date}
    (can : style.CanWrite date) (impossible : date.isValid = false) (policy : DatePolicy) :
    readDate policy (style.text date) = .error .unrecognized := by
  have no_instant : date.midnight.reading.instant? = none :=
    Reading.instant?_of_not_isValid impossible
  rw [DateStyle.readDate_text can, no_instant]

/-- **Every way to write a moment reads back.** Under either policy, the text of a possible moment
in any style is read as the instant of what the style shows of it. So all texts of one instant are
read alike. And a date that there is not, in any style that can write it, is not recognised. -/
theorem readDate_every_style (policy : DatePolicy) :
    (∀ (style : Style) (m : Moment), m.IsPossible →
        readDate policy (style.text m) = .ok (style.shown m).instant) ∧
      (∀ (style style' : Style) (m m' : Moment), m.IsPossible → m'.IsPossible →
        (style.shown m).instant = (style'.shown m').instant →
          ∀ policy', readDate policy (style.text m) = readDate policy' (style'.text m')) ∧
      (∀ (style : DateStyle) (date : Date), style.CanWrite date → date.isValid = false →
        readDate policy (style.text date) = .error .unrecognized) := by
  refine ⟨fun style m possible => possible.readDate_text policy style, ?_,
    fun style date can impossible => DateStyle.readDate_text_of_impossible can impossible policy⟩
  intro style style' m m' possible possible' same policy'
  rw [possible.readDate_text, possible'.readDate_text, same]

/-- A quarter of a second after the second last second of a leap day, five and a half hours behind
UTC. -/
def Moment.leapDayNight : Moment := ⟨⟨2024, 2, 29⟩, 23, 59, 58, ['2', '5'], ⟨true, 5, 30⟩⟩

/-- The end of a leap day with an offset is the first of March in UTC, and in a mail header, where
the fraction is not written, a whole second. A leap day and its midnight are read alike. The
thirtieth of February is not recognised. -/
theorem readDate_every_style_leapDay :
    Moment.leapDayNight.IsPossible ∧
      readDate .textOnly "2024-02-29 23:59:58.25-0530".toList = .ok ⟨1709270998, 250000000⟩ ∧
      readDate .textOrEpoch "Thu, 29 Feb 2024 23:59:58 -0530".toList = .ok ⟨1709270998, 0⟩ ∧
      readDate .textOnly "29 February 2024".toList =
        readDate .textOrEpoch "2024-02-29T00:00".toList ∧
      readDate .textOrEpoch "30.02.2023".toList = .error .unrecognized := by
  have possible : Moment.leapDayNight.IsPossible :=
    ⟨by decide, by decide, by decide, by decide, by decide, by decide, by decide,
      List.all_eq_true.mp rfl, ⟨by decide, by decide⟩⟩
  have can : DateStyle.dotted.CanWrite ⟨2023, 2, 30⟩ :=
    ⟨by decide, by decide, by decide, by decide, by decide⟩
  have zoned := (readDate_every_style .textOnly).1 (.zoned .blank .plain) _ possible
  have mail := (readDate_every_style .textOrEpoch).1 (.mail true true true) _ possible
  have alike := (readDate_every_style .textOnly).2.1 (.dateAlone (.dayFirst true true))
    (.zoneless .letter false) _ _ possible possible.midnight rfl .textOrEpoch
  have impossible := (readDate_every_style .textOrEpoch).2.2 .dotted ⟨2023, 2, 30⟩ can (by decide)
  rw [show (Style.zoned .blank .plain).text .leapDayNight = "2024-02-29 23:59:58.25-0530".toList by
      decide +kernel,
    show ((Style.zoned .blank .plain).shown .leapDayNight).instant = ⟨1709270998, 250000000⟩ by
      decide +kernel] at zoned
  rw [show (Style.mail true true true).text .leapDayNight =
      "Thu, 29 Feb 2024 23:59:58 -0530".toList by decide +kernel,
    show ((Style.mail true true true).shown .leapDayNight).instant = ⟨1709270998, 0⟩ by
      decide +kernel] at mail
  rw [show (Style.dateAlone (.dayFirst true true)).text .leapDayNight = "29 February 2024".toList by
      decide +kernel,
    show (Style.zoneless .letter false).text Moment.leapDayNight.date.midnight =
      "2024-02-29T00:00".toList by decide +kernel] at alike
  rw [show DateStyle.dotted.text ⟨2023, 2, 30⟩ = "30.02.2023".toList by decide +kernel] at impossible
  exact ⟨possible, zoned, mail, alike, impossible⟩

end Intake.Calendar
