import Elapsed.Locale.Table

/-!
# Built-in locales

The languages that are there without any locale file. The first of them is the baseline.
-/

namespace Elapsed.Locale.Builtin

/-- American English. -/
def enUS : Table where
  id := "en_US"
  rule := .english
  separator := " "
  forms?
    | .week => some ⟨"w", ["week", "weeks"]⟩
    | .day => some ⟨"d", ["day", "days"]⟩
    | .hour => some ⟨"h", ["hour", "hours"]⟩
    | .minute => some ⟨"m", ["minute", "minutes"]⟩
    | .second => some ⟨"s", ["second", "seconds"]⟩

/-- Estonian. -/
def etEE : Table where
  id := "et_EE"
  rule := .english
  separator := " "
  forms?
    | .week => some ⟨"n", ["nädal", "nädalat"]⟩
    | .day => some ⟨"p", ["päev", "päeva"]⟩
    | .hour => some ⟨"t", ["tund", "tundi"]⟩
    | .minute => some ⟨"m", ["minut", "minutit"]⟩
    | .second => some ⟨"s", ["sekund", "sekundit"]⟩

/-- French. -/
def frFR : Table where
  id := "fr_FR"
  rule := .french
  separator := " "
  forms?
    | .week => some ⟨"sem", ["semaine", "semaines"]⟩
    | .day => some ⟨"j", ["jour", "jours"]⟩
    | .hour => some ⟨"h", ["heure", "heures"]⟩
    | .minute => some ⟨"min", ["minute", "minutes"]⟩
    | .second => some ⟨"s", ["seconde", "secondes"]⟩

/-- Russian. -/
def ruRU : Table where
  id := "ru_RU"
  rule := .russian
  separator := " "
  forms?
    | .week => some ⟨"нед", ["неделя", "недели", "недель"]⟩
    | .day => some ⟨"д", ["день", "дня", "дней"]⟩
    | .hour => some ⟨"ч", ["час", "часа", "часов"]⟩
    | .minute => some ⟨"мин", ["минута", "минуты", "минут"]⟩
    | .second => some ⟨"с", ["секунда", "секунды", "секунд"]⟩

/-- Polish. -/
def plPL : Table where
  id := "pl_PL"
  rule := .polish
  separator := " "
  forms?
    | .week => some ⟨"tydz", ["tydzień", "tygodnie", "tygodni"]⟩
    | .day => some ⟨"d", ["dzień", "dni", "dni"]⟩
    | .hour => some ⟨"godz", ["godzina", "godziny", "godzin"]⟩
    | .minute => some ⟨"min", ["minuta", "minuty", "minut"]⟩
    | .second => some ⟨"s", ["sekunda", "sekundy", "sekund"]⟩

/-- Japanese. -/
def jaJP : Table where
  id := "ja_JP"
  rule := .cjk
  separator := ""
  forms?
    | .week => some ⟨"週", ["週間"]⟩
    | .day => some ⟨"日", ["日"]⟩
    | .hour => some ⟨"時", ["時間"]⟩
    | .minute => some ⟨"分", ["分"]⟩
    | .second => some ⟨"秒", ["秒"]⟩

/-- Every built-in locale, the baseline first. -/
def tables : List Table :=
  [enUS, etEE, frFR, ruRU, plPL, jaJP]

/-- The built-in locale of an identifier. -/
def find? (id : String) : Option Table :=
  tables.find? fun t => t.id == id

end Elapsed.Locale.Builtin
