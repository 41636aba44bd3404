import SpaceTeamSite.I18n.TextKey

/-!
# The English texts

The English table leaves out the brand title and the picture source credit, which
read the same in both languages and so come from the Turkish table.
-/

namespace SpaceTeamSite.Catalog

/-- The English text of a key, where the English table has one. -/
def english : TextKey → Option String
  | .pageDescription => some "ITU TAYF is a student space team building rocket and satellite systems."
  | .navProject => some "Project"
  | .navTeam => some "Team"
  | .navSponsor => some "Sponsorship"
  | .navJoin => some "Join"
  | .navContact => some "Contact"
  | .menuAriaLabel => some "Open menu"
  | .languageSwitchLabel => some "Language"
  | .logoAlt => some "ITU TAYF logo"
  | .heroTitle => some "The Road to the Stars Runs Through ITU"
  | .heroSubtitle => some "Rocket and satellite systems designed, tested and launched by students."
  | .heroBtnProject => some "Explore Our Project"
  | .heroBtnSponsor => some "Become a Sponsor"
  | .metricsTest => some "Successful Tests"
  | .metricsAccess => some "Reach"
  | .metricsMembers => some "Active Members"
  | .metricsPartners => some "Partners"
  | .metricsHours => some "Engineering Hours"
  | .projectTitle => some "Our Project"
  | .projectText => some "Our communication satellite mission brings structural design, avionics, flight software and the ground station together in a single integrated system. Every subsystem is built and tested from scratch by our members."
  | .projectAchievementsTitle => some "Achievements"
  | .ach1 => some "Finalist in the national model satellite competition"
  | .ach2 => some "High score on the Critical Design Review"
  | .ach3 => some "Successful altitude and separation tests"
  | .projectGoalsTitle => some "Goals"
  | .goal1 => some "Represent our country in international competitions"
  | .goal2 => some "Develop a subsystem capable of reaching orbit"
  | .goal3 => some "Spread space engineering knowledge across campus"
  | .badgeFounded => some "Founded: 2021"
  | .badgeDRScorePrefix => some "CDR Score: "
  | .galleryTitle => some "Gallery"
  | .tabGallery => some "Photos"
  | .tab3D => some "3D Model"
  | .hintPan => some "Drag to rotate the model, scroll to zoom."
  | .projectImageAlt1 => some "Satellite body during integration"
  | .projectImageAlt2 => some "Close-up of the avionics board"
  | .projectImageAlt3 => some "Team members at the test site"
  | .projectImageAlt4 => some "Ground station antenna"
  | .projectImageAlt5 => some "System architecture diagram"
  | .projectTimelineTitle => some "Roadmap"
  | .timelineItem1Date => some "October 2021"
  | .timelineItem1Desc => some "Team founded and first concept design"
  | .timelineItem2Date => some "March 2022"
  | .timelineItem2Desc => some "Preliminary Design Review submitted"
  | .timelineItem3Date => some "June 2023"
  | .timelineItem3Desc => some "First flight model integrated and tested"
  | .timelineItem4Date => some "2025 and beyond"
  | .timelineItem4Desc => some "International competitions and orbital goals"
  | .teamTitle => some "Our Teams"
  | .teamCard1Title => some "Mechanical"
  | .teamCard1Text => some "Structural design, material selection and manufacturing."
  | .teamCard2Title => some "Electronics"
  | .teamCard2Text => some "Avionics, power systems and sensor integration."
  | .teamCard3Title => some "Flight Software"
  | .teamCard3Text => some "Embedded software, telemetry and control algorithms."
  | .teamCard4Title => some "Ground Station"
  | .teamCard4Text => some "Communications, antenna systems and data visualization."
  | .teamCard5Title => some "Organization"
  | .teamCard5Text => some "Sponsorship, events, design and social media."
  | .sponsorIntroTitle => some "Let's Build the Future Together"
  | .sponsorIntroSubtitle => some "Your support powers young engineers reaching for space."
  | .sponsorIntroBtn => some "Download the Brochure"
  | .sponsorTiersTitle => some "Sponsorship Tiers"
  | .sponsorTierSilverTitle => some "Silver"
  | .sponsorTierSilverBenefit1 => some "Logo on the website"
  | .sponsorTierSilverBenefit2 => some "Thank-you post on social media"
  | .sponsorTierPlatinumTitle => some "Platinum"
  | .sponsorTierPlatinumBadge => some "Recommended"
  | .sponsorTierPlatinumBenefit1 => some "Large logo on the satellite body"
  | .sponsorTierPlatinumBenefit2 => some "Logo on team apparel"
  | .sponsorTierPlatinumBenefit3 => some "Special mention in competition presentations"
  | .sponsorTierPlatinumBenefit4 => some "Technical seminar for your company"
  | .sponsorTierGoldTitle => some "Gold"
  | .sponsorTierGoldBenefit1 => some "Logo on the satellite body"
  | .sponsorTierGoldBenefit2 => some "Featured logo on the website"
  | .sponsorTierGoldBenefit3 => some "Booth at our events"
  | .sponsorFinalCtaTitle => some "Have questions?"
  | .sponsorFinalCtaText => some "Let's find the partnership model that suits you best."
  | .launchesKicker => some "Live Data"
  | .launchesTitle => some "This Week in Space"
  | .launchesLead => some "Upcoming rocket launches and NASA's astronomy picture of the day."
  | .launchesLiveTag => some "Live"
  | .launchesListTitle => some "Upcoming Launches"
  | .launchesLoading => some "Loading launches…"
  | .launchesEmpty => some "No launches are scheduled right now."
  | .launchesError => some "Could not load launch data."
  | .launchesShowMore => some "Show more"
  | .launchesShowLess => some "Show less"
  | .launchesUnknownName => some "Unnamed mission"
  | .launchesUnknownOperator => some "Unknown operator"
  | .launchesUnknownLocation => some "Unknown location"
  | .launchesNoDate => some "Date to be determined"
  | .launchesOperatorLabel => some "Operator"
  | .launchesLocationLabel => some "Location"
  | .launchesTimeLabel => some "Time"
  | .launchesMissionLabel => some "Mission"
  | .rocketAlt => some "Rocket image"
  | .apodTitle => some "Astronomy Picture of the Day"
  | .apodLoading => some "Loading picture…"
  | .apodNoImage => some "Today's entry is not a picture."
  | .apodError => some "Could not load today's picture."
  | .apodDateLabel => some "Date"
  | .joinTitle => some "Join Us"
  | .joinLead => some "Whatever your field, there is an orbit for you at TAYF. Pick a department and apply."
  | .joinItem1 => some "Experience on real space projects"
  | .joinItem2 => some "Hands-on testing and manufacturing"
  | .joinItem3 => some "Trainings and technical workshops"
  | .joinItem4 => some "Strong ties with the industry"
  | .contactTitle => some "Contact"
  | .contactText => some "Reach out with questions and partnership offers."
  | .contactEmailAriaLabel => some "Send an email"
  | .contactLinkedInAriaLabel => some "Our LinkedIn page"
  | .contactInstagramAriaLabel => some "Our Instagram account"
  | .footerCopyright => some "© 2025 ITU TAYF. All rights reserved."
  | .pageTitle => none
  | .apodSource => none

end SpaceTeamSite.Catalog
