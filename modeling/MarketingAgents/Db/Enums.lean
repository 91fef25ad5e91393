namespace MarketingAgents

/-- Row identifiers; only their equality is used. Timestamps are plain `Int`s,
in microseconds. -/
abbrev Uuid := Nat

inductive UserRole where
  | admin | manager | marketer | viewer
deriving DecidableEq, Repr

inductive CampaignStatus where
  | drafted | audienceBuilt | strategySet | contentInProduction | approvalPending
  | readyToLaunch | live | optimising | paused | completed
deriving DecidableEq, Repr

inductive TaskStatus where
  | queued | running | succeeded | failed | cancelled | awaitingRetry
deriving DecidableEq, Repr

inductive AssetType where
  | email | socialPost | adCreative | blogPost | landingPageCopy | sms | push | linkedinDm
deriving DecidableEq, Repr

inductive AssetStatus where
  | requested | generating | drafted | pendingApproval | approved | rejected
  | scheduled | published | failed | measuring | variantWinner | archived
deriving DecidableEq, Repr

inductive AbTestStatus where
  | designing | running | significant | inconclusive | stopped
deriving DecidableEq, Repr

inductive ApprovalDecision where
  | approved | approvedWithEdits | rejected
deriving DecidableEq, Repr

inductive AttemptStatus where
  | sent | suppressed | rejected | failed | skipped
deriving DecidableEq, Repr

inductive EventKind where
  | impression | click | opened | reply | conversion | unsubscribe | bounce | spamComplaint | spend
deriving DecidableEq, Repr

inductive ChannelPlatform where
  | email | linkedin | x | «meta» | instagram | googleAds | metaAds | web | blog | sms
deriving DecidableEq, Repr

def CampaignStatus.value : CampaignStatus → String
  | .drafted => "drafted"
  | .audienceBuilt => "audience_built"
  | .strategySet => "strategy_set"
  | .contentInProduction => "content_in_production"
  | .approvalPending => "approval_pending"
  | .readyToLaunch => "ready_to_launch"
  | .live => "live"
  | .optimising => "optimising"
  | .paused => "paused"
  | .completed => "completed"

def AssetStatus.value : AssetStatus → String
  | .requested => "requested"
  | .generating => "generating"
  | .drafted => "drafted"
  | .pendingApproval => "pending_approval"
  | .approved => "approved"
  | .rejected => "rejected"
  | .scheduled => "scheduled"
  | .published => "published"
  | .failed => "failed"
  | .measuring => "measuring"
  | .variantWinner => "variant_winner"
  | .archived => "archived"

def AssetType.value : AssetType → String
  | .email => "email"
  | .socialPost => "social_post"
  | .adCreative => "ad_creative"
  | .blogPost => "blog_post"
  | .landingPageCopy => "landing_page_copy"
  | .sms => "sms"
  | .push => "push"
  | .linkedinDm => "linkedin_dm"

def ChannelPlatform.value : ChannelPlatform → String
  | .email => "email"
  | .linkedin => "linkedin"
  | .x => "x"
  | .meta => "meta"
  | .instagram => "instagram"
  | .googleAds => "google_ads"
  | .metaAds => "meta_ads"
  | .web => "web"
  | .blog => "blog"
  | .sms => "sms"

def AbTestStatus.value : AbTestStatus → String
  | .designing => "designing"
  | .running => "running"
  | .significant => "significant"
  | .inconclusive => "inconclusive"
  | .stopped => "stopped"

def UserRole.value : UserRole → String
  | .admin => "admin"
  | .manager => "manager"
  | .marketer => "marketer"
  | .viewer => "viewer"

/-- `_ROLE_RANK` of `api/deps.py`, which `_require_role` of the assistant repeats. -/
def UserRole.rank : UserRole → Nat
  | .viewer => 0
  | .marketer => 1
  | .manager => 2
  | .admin => 3

end MarketingAgents
