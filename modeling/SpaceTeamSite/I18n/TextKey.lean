/-!
# Text keys

The closed set of translatable texts on the page. Each key has a wire name, the
camel-case name that override documents and the command line use for it, and a
position in `TextKey.all`, the order in which audits list keys.
-/

namespace SpaceTeamSite

/-- A translatable text of the page. Constructors are named by their wire names. -/
inductive TextKey where
  | pageTitle
  | pageDescription
  | navProject
  | navTeam
  | navSponsor
  | navJoin
  | navContact
  | menuAriaLabel
  | languageSwitchLabel
  | logoAlt
  | heroTitle
  | heroSubtitle
  | heroBtnProject
  | heroBtnSponsor
  | metricsTest
  | metricsAccess
  | metricsMembers
  | metricsPartners
  | metricsHours
  | projectTitle
  | projectText
  | projectAchievementsTitle
  | ach1
  | ach2
  | ach3
  | projectGoalsTitle
  | goal1
  | goal2
  | goal3
  | badgeFounded
  | badgeDRScorePrefix
  | galleryTitle
  | tabGallery
  | tab3D
  | hintPan
  | projectImageAlt1
  | projectImageAlt2
  | projectImageAlt3
  | projectImageAlt4
  | projectImageAlt5
  | projectTimelineTitle
  | timelineItem1Date
  | timelineItem1Desc
  | timelineItem2Date
  | timelineItem2Desc
  | timelineItem3Date
  | timelineItem3Desc
  | timelineItem4Date
  | timelineItem4Desc
  | teamTitle
  | teamCard1Title
  | teamCard1Text
  | teamCard2Title
  | teamCard2Text
  | teamCard3Title
  | teamCard3Text
  | teamCard4Title
  | teamCard4Text
  | teamCard5Title
  | teamCard5Text
  | sponsorIntroTitle
  | sponsorIntroSubtitle
  | sponsorIntroBtn
  | sponsorTiersTitle
  | sponsorTierSilverTitle
  | sponsorTierSilverBenefit1
  | sponsorTierSilverBenefit2
  | sponsorTierPlatinumTitle
  | sponsorTierPlatinumBadge
  | sponsorTierPlatinumBenefit1
  | sponsorTierPlatinumBenefit2
  | sponsorTierPlatinumBenefit3
  | sponsorTierPlatinumBenefit4
  | sponsorTierGoldTitle
  | sponsorTierGoldBenefit1
  | sponsorTierGoldBenefit2
  | sponsorTierGoldBenefit3
  | sponsorFinalCtaTitle
  | sponsorFinalCtaText
  | launchesKicker
  | launchesTitle
  | launchesLead
  | launchesLiveTag
  | launchesListTitle
  | launchesLoading
  | launchesEmpty
  | launchesError
  | launchesShowMore
  | launchesShowLess
  | launchesUnknownName
  | launchesUnknownOperator
  | launchesUnknownLocation
  | launchesNoDate
  | launchesOperatorLabel
  | launchesLocationLabel
  | launchesTimeLabel
  | launchesMissionLabel
  | rocketAlt
  | apodTitle
  | apodSource
  | apodLoading
  | apodNoImage
  | apodError
  | apodDateLabel
  | joinTitle
  | joinLead
  | joinItem1
  | joinItem2
  | joinItem3
  | joinItem4
  | contactTitle
  | contactText
  | contactEmailAriaLabel
  | contactLinkedInAriaLabel
  | contactInstagramAriaLabel
  | footerCopyright
  deriving DecidableEq, Repr, Inhabited

namespace TextKey

/-- The name a key has in override documents and in audit listings. -/
def wire : TextKey → String
  | pageTitle => "pageTitle"
  | pageDescription => "pageDescription"
  | navProject => "navProject"
  | navTeam => "navTeam"
  | navSponsor => "navSponsor"
  | navJoin => "navJoin"
  | navContact => "navContact"
  | menuAriaLabel => "menuAriaLabel"
  | languageSwitchLabel => "languageSwitchLabel"
  | logoAlt => "logoAlt"
  | heroTitle => "heroTitle"
  | heroSubtitle => "heroSubtitle"
  | heroBtnProject => "heroBtnProject"
  | heroBtnSponsor => "heroBtnSponsor"
  | metricsTest => "metricsTest"
  | metricsAccess => "metricsAccess"
  | metricsMembers => "metricsMembers"
  | metricsPartners => "metricsPartners"
  | metricsHours => "metricsHours"
  | projectTitle => "projectTitle"
  | projectText => "projectText"
  | projectAchievementsTitle => "projectAchievementsTitle"
  | ach1 => "ach1"
  | ach2 => "ach2"
  | ach3 => "ach3"
  | projectGoalsTitle => "projectGoalsTitle"
  | goal1 => "goal1"
  | goal2 => "goal2"
  | goal3 => "goal3"
  | badgeFounded => "badgeFounded"
  | badgeDRScorePrefix => "badgeDRScorePrefix"
  | galleryTitle => "galleryTitle"
  | tabGallery => "tabGallery"
  | tab3D => "tab3D"
  | hintPan => "hintPan"
  | projectImageAlt1 => "projectImageAlt1"
  | projectImageAlt2 => "projectImageAlt2"
  | projectImageAlt3 => "projectImageAlt3"
  | projectImageAlt4 => "projectImageAlt4"
  | projectImageAlt5 => "projectImageAlt5"
  | projectTimelineTitle => "projectTimelineTitle"
  | timelineItem1Date => "timelineItem1Date"
  | timelineItem1Desc => "timelineItem1Desc"
  | timelineItem2Date => "timelineItem2Date"
  | timelineItem2Desc => "timelineItem2Desc"
  | timelineItem3Date => "timelineItem3Date"
  | timelineItem3Desc => "timelineItem3Desc"
  | timelineItem4Date => "timelineItem4Date"
  | timelineItem4Desc => "timelineItem4Desc"
  | teamTitle => "teamTitle"
  | teamCard1Title => "teamCard1Title"
  | teamCard1Text => "teamCard1Text"
  | teamCard2Title => "teamCard2Title"
  | teamCard2Text => "teamCard2Text"
  | teamCard3Title => "teamCard3Title"
  | teamCard3Text => "teamCard3Text"
  | teamCard4Title => "teamCard4Title"
  | teamCard4Text => "teamCard4Text"
  | teamCard5Title => "teamCard5Title"
  | teamCard5Text => "teamCard5Text"
  | sponsorIntroTitle => "sponsorIntroTitle"
  | sponsorIntroSubtitle => "sponsorIntroSubtitle"
  | sponsorIntroBtn => "sponsorIntroBtn"
  | sponsorTiersTitle => "sponsorTiersTitle"
  | sponsorTierSilverTitle => "sponsorTierSilverTitle"
  | sponsorTierSilverBenefit1 => "sponsorTierSilverBenefit1"
  | sponsorTierSilverBenefit2 => "sponsorTierSilverBenefit2"
  | sponsorTierPlatinumTitle => "sponsorTierPlatinumTitle"
  | sponsorTierPlatinumBadge => "sponsorTierPlatinumBadge"
  | sponsorTierPlatinumBenefit1 => "sponsorTierPlatinumBenefit1"
  | sponsorTierPlatinumBenefit2 => "sponsorTierPlatinumBenefit2"
  | sponsorTierPlatinumBenefit3 => "sponsorTierPlatinumBenefit3"
  | sponsorTierPlatinumBenefit4 => "sponsorTierPlatinumBenefit4"
  | sponsorTierGoldTitle => "sponsorTierGoldTitle"
  | sponsorTierGoldBenefit1 => "sponsorTierGoldBenefit1"
  | sponsorTierGoldBenefit2 => "sponsorTierGoldBenefit2"
  | sponsorTierGoldBenefit3 => "sponsorTierGoldBenefit3"
  | sponsorFinalCtaTitle => "sponsorFinalCtaTitle"
  | sponsorFinalCtaText => "sponsorFinalCtaText"
  | launchesKicker => "launchesKicker"
  | launchesTitle => "launchesTitle"
  | launchesLead => "launchesLead"
  | launchesLiveTag => "launchesLiveTag"
  | launchesListTitle => "launchesListTitle"
  | launchesLoading => "launchesLoading"
  | launchesEmpty => "launchesEmpty"
  | launchesError => "launchesError"
  | launchesShowMore => "launchesShowMore"
  | launchesShowLess => "launchesShowLess"
  | launchesUnknownName => "launchesUnknownName"
  | launchesUnknownOperator => "launchesUnknownOperator"
  | launchesUnknownLocation => "launchesUnknownLocation"
  | launchesNoDate => "launchesNoDate"
  | launchesOperatorLabel => "launchesOperatorLabel"
  | launchesLocationLabel => "launchesLocationLabel"
  | launchesTimeLabel => "launchesTimeLabel"
  | launchesMissionLabel => "launchesMissionLabel"
  | rocketAlt => "rocketAlt"
  | apodTitle => "apodTitle"
  | apodSource => "apodSource"
  | apodLoading => "apodLoading"
  | apodNoImage => "apodNoImage"
  | apodError => "apodError"
  | apodDateLabel => "apodDateLabel"
  | joinTitle => "joinTitle"
  | joinLead => "joinLead"
  | joinItem1 => "joinItem1"
  | joinItem2 => "joinItem2"
  | joinItem3 => "joinItem3"
  | joinItem4 => "joinItem4"
  | contactTitle => "contactTitle"
  | contactText => "contactText"
  | contactEmailAriaLabel => "contactEmailAriaLabel"
  | contactLinkedInAriaLabel => "contactLinkedInAriaLabel"
  | contactInstagramAriaLabel => "contactInstagramAriaLabel"
  | footerCopyright => "footerCopyright"

/-- Every key, in the order audits list them. -/
def all : List TextKey :=
  [pageTitle, pageDescription, navProject, navTeam, navSponsor, navJoin, navContact,
    menuAriaLabel, languageSwitchLabel, logoAlt, heroTitle, heroSubtitle, heroBtnProject,
    heroBtnSponsor, metricsTest, metricsAccess, metricsMembers, metricsPartners, metricsHours,
    projectTitle, projectText, projectAchievementsTitle, ach1, ach2, ach3, projectGoalsTitle,
    goal1, goal2, goal3, badgeFounded, badgeDRScorePrefix, galleryTitle, tabGallery, tab3D,
    hintPan, projectImageAlt1, projectImageAlt2, projectImageAlt3, projectImageAlt4,
    projectImageAlt5, projectTimelineTitle, timelineItem1Date, timelineItem1Desc,
    timelineItem2Date, timelineItem2Desc, timelineItem3Date, timelineItem3Desc,
    timelineItem4Date, timelineItem4Desc, teamTitle, teamCard1Title, teamCard1Text,
    teamCard2Title, teamCard2Text, teamCard3Title, teamCard3Text, teamCard4Title,
    teamCard4Text, teamCard5Title, teamCard5Text, sponsorIntroTitle, sponsorIntroSubtitle,
    sponsorIntroBtn, sponsorTiersTitle, sponsorTierSilverTitle, sponsorTierSilverBenefit1,
    sponsorTierSilverBenefit2, sponsorTierPlatinumTitle, sponsorTierPlatinumBadge,
    sponsorTierPlatinumBenefit1, sponsorTierPlatinumBenefit2, sponsorTierPlatinumBenefit3,
    sponsorTierPlatinumBenefit4, sponsorTierGoldTitle, sponsorTierGoldBenefit1,
    sponsorTierGoldBenefit2, sponsorTierGoldBenefit3, sponsorFinalCtaTitle,
    sponsorFinalCtaText, launchesKicker, launchesTitle, launchesLead, launchesLiveTag,
    launchesListTitle, launchesLoading, launchesEmpty, launchesError, launchesShowMore,
    launchesShowLess, launchesUnknownName, launchesUnknownOperator, launchesUnknownLocation,
    launchesNoDate, launchesOperatorLabel, launchesLocationLabel, launchesTimeLabel,
    launchesMissionLabel, rocketAlt, apodTitle, apodSource, apodLoading, apodNoImage,
    apodError, apodDateLabel, joinTitle, joinLead, joinItem1, joinItem2, joinItem3, joinItem4,
    contactTitle, contactText, contactEmailAriaLabel, contactLinkedInAriaLabel,
    contactInstagramAriaLabel, footerCopyright]

end TextKey

end SpaceTeamSite
