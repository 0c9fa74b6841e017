import SrgpGame.Friend.Blessing
import SrgpGame.Friend.ListSize
import SrgpGame.Guild.ClearReqs
import SrgpGame.Guild.Logins
import SrgpGame.Guild.Answers
import SrgpGame.Guild.Donate
import SrgpGame.Guild.GuildExp
import SrgpGame.Skill.SkillLearn
import SrgpGame.Hero.StageUp
import SrgpGame.Hero.LvAllIn
import SrgpGame.Lib.Spending
import SrgpGame.Quest.QuestBO
import SrgpGame.Lib.Batches
import SrgpGame.Lib.Runs
import SrgpGame.Lib.Machine
import SrgpGame.Lib.Ledger
import SrgpGame.Core.Codes
import SrgpGame.Depot.DepotVO
import SrgpGame.Depot.GoodsLedger
import SrgpGame.Lib.Reader
import SrgpGame.Lib.Outcome
import SrgpGame.Lib.Utf8
import SrgpGame.Buffer.Value
import SrgpGame.Buffer.ReadBuffer
import SrgpGame.Buffer.RoundTrip
import SrgpGame.Buffer.Typed
import SrgpGame.Buffer.BoundedRead
import SrgpGame.Lib.Statements
import SrgpGame.Code.CodeService
import SrgpGame.Deliver.DeliverManage
import SrgpGame.Login.Registrations
import SrgpGame.Lib.Method
import SrgpGame.Depot.Currency
import SrgpGame.Depot.Balances
import SrgpGame.Func.BaseFuncsExecutor
import SrgpGame.Func.ExecOnce
import SrgpGame.Func.FuncsGoodsChecker
import SrgpGame.Func.Rejected
import SrgpGame.Lib.Maintained
import SrgpGame.Shop.ShopBO
import SrgpGame.Func.Upheld
import SrgpGame.Shop.BuyLimit
import SrgpGame.Goods.UseGoods
import SrgpGame.Func.Selections
import SrgpGame.Func.Allotment
import SrgpGame.Func.WeightCounts
import SrgpGame.Func.Soundness
import SrgpGame.Func.Blocks
import SrgpGame.Func.WholeBlocks
import SrgpGame.Func.FixedQuota
import SrgpGame.Quest.BehavProc
import SrgpGame.Mail.PickOnce
import SrgpGame.Pay.PrizeOnce
import SrgpGame.Context.AcceptOnce
import SrgpGame.Context.Window
import SrgpGame.Socket.CloseOnce
import SrgpGame.Gateway.MessageDecoder
import SrgpGame.Gateway.ServerCodec
import SrgpGame.Gateway.ClientCodec
import SrgpGame.Gateway.Alignment
import SrgpGame.Lib.Roster
import SrgpGame.Guild.Leaders
import SrgpGame.Lib.SubList
import SrgpGame.Rank.RankRuns
import SrgpGame.Rank.WellFormed
import SrgpGame.Rank.Windows
import SrgpGame.Rank.Loading
import SrgpGame.Lib.BestFirst
import SrgpGame.Fight.FreshGrid
import SrgpGame.Fight.AttackOrder
import SrgpGame.Fight.PreAttack
import SrgpGame.Lib.Handout
import SrgpGame.Hero.Reload
import SrgpGame.Hero.Levels
import SrgpGame.Friend.Friendship
import SrgpGame.Friend.LiveRequests
import SrgpGame.Skill.SealHolders
import SrgpGame.Depot.Reload
import SrgpGame.Chat.GuildChat
import SrgpGame.Guild.Recommended
import SrgpGame.Guild.RecommendGuild
import SrgpGame.Guild.Changes
import SrgpGame.Guild.MemberSize
import SrgpGame.Lib.BiMap
import SrgpGame.Player.PlayerBO
import SrgpGame.Player.Names
import SrgpGame.Binding.ConnectorGroup
import SrgpGame.Binding.Wired
import SrgpGame.Binding.ManagedSession
import SrgpGame.Lib.Cumulative
import SrgpGame.Lib.PathSearch
import SrgpGame.Util.RandomUtils
import SrgpGame.Util.Proportional
import SrgpGame.Util.RandomKeys
import SrgpGame.Util.RandomPool
import SrgpGame.Util.RandomIX
import SrgpGame.Goods.GoodsBO
import SrgpGame.Lib.Schedule
import SrgpGame.Time.LocalDateTime
import SrgpGame.Time.SYSCons
import SrgpGame.Shop.RefreshTime
import SrgpGame.Store.StoreBO
import SrgpGame.Lib.SortedSet
import SrgpGame.Util.WeightedPool
import SrgpGame.Shop.GroupShopItem
import SrgpGame.Shop.ShopRefreshRule
import SrgpGame.Util.Decimal
import SrgpGame.Shop.GuildLevel
import SrgpGame.Shop.RuleOutcomes
import SrgpGame.Func.CurrencyFunc
import SrgpGame.Shop.ManualRefresh
import SrgpGame.Chat.NearChat
import SrgpGame.Mail.BatchPick
import SrgpGame.Mail.DeleteMails
import SrgpGame.Mail.NothingLost
import SrgpGame.Activity.Records
import SrgpGame.Activity.LoadRec
import SrgpGame.Lib.Periodic
import SrgpGame.Activity.RefTime
import SrgpGame.Activity.ResetRec
import SrgpGame.Activity.CondProcess
import SrgpGame.Activity.PayMember
import SrgpGame.Lib.Comparator
import SrgpGame.Activity.Ranks
import SrgpGame.Lib.SortedMultimap
import SrgpGame.Stats.StatsBO
import SrgpGame.Quest.QuestCfgCache
import SrgpGame.Code.Bindings
import SrgpGame.Gateway.Handshake
import SrgpGame.Cache.CacheWord
import SrgpGame.Gateway.ClientStream
import SrgpGame.Func.FuncsScriptUtil
import SrgpGame.Context.Resend
import SrgpGame.Buffer.BoundedRead
import SrgpGame.Buffer.Hostile
import SrgpGame.Quest.CProcStats
import SrgpGame.Session.Reconnects
import SrgpGame.Session.Platform
