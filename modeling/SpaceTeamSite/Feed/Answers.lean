import SpaceTeamSite.Record.Launch
import SpaceTeamSite.Record.Picture
import SpaceTeamSite.Error

/-!
# What the feeds answer

A page load asks two feeds once each: the upcoming launches and the picture of the day.
The widgets only see each feed's answer, data or the reason there is none, so a run of
the site is fixed by the two answers.

Without a network every request fails in transport before any server receives it;
`FeedAnswers.offline` is that run.
-/

namespace SpaceTeamSite

/-- The name the launches feed goes by in messages. -/
def launchesSource : String := "launches"

/-- The name the picture feed goes by in messages. -/
def pictureSource : String := "apod"

/-- The answers of the two feeds, with the names the feeds go by. -/
structure FeedAnswers where
  launchesName : String := launchesSource
  launches : Except FeedError LaunchPage
  pictureName : String := pictureSource
  picture : Except FeedError PictureRecord

/-- The answers without a network: both requests fail in transport. -/
def FeedAnswers.offline : FeedAnswers where
  launches := .error (.requestFailed launchesSource)
  picture := .error (.requestFailed pictureSource)

/-- Requests that reach a server when there is no network: none. -/
def FeedAnswers.offlineRequests : Nat := 0

end SpaceTeamSite
