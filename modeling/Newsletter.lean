import Newsletter.Schema
import Newsletter.Core.Rounding
import Newsletter.Core.Runs
import Newsletter.Auth.Register
import Newsletter.Auth.Webhook
import Newsletter.Courses.Campaign
import Newsletter.Unsubscribe
import Newsletter.Core.Text
import Newsletter.Courses.Generation
import Newsletter.Courses.Formatting
import Newsletter.Courses.Retry
import Newsletter.Courses.Content
import Newsletter.Courses.Sending
import Newsletter.App
import Newsletter.Entitlement
import Newsletter.Commission
import Newsletter.Deliveries
import Newsletter.Billing
import Newsletter.DeletedCampaign
import Newsletter.DoubleSubscription
import Newsletter.Isolation.Integrity
import Newsletter.Isolation.Confidentiality
import Newsletter.Registration
import Newsletter.Addressing
import Newsletter.Concurrency.Accounts
import Newsletter.Concurrency.Links
import Newsletter.Concurrency.Tasks
import Newsletter.Concurrency.PileUp
import Newsletter.Concurrency.Status
import Newsletter.Concurrency.Keys
import Newsletter.Concurrency.Templates
import Newsletter.Concurrency.Attachments
import Newsletter.Concurrency.SentMark
import Newsletter.Failures
import Newsletter.Settlement
import Newsletter.Leaving
import Newsletter.Mailing
import Newsletter.Concurrency.Conversation
import Newsletter.RegistrationPage
import Newsletter.Schedule
import Newsletter.Adverts
import Newsletter.Polling
import Newsletter.Database
import Newsletter.WellFormed
import Newsletter.Settings
import Newsletter.Calls
import Newsletter.Checkout
import Newsletter.Core.Url
import Newsletter.Routes
import Newsletter.Concurrency.Quiescence
import Newsletter.Auth.Login
import Newsletter.Sessions
import Newsletter.Concurrency.Subscribers
import Newsletter.Isolation.Intrusion
import Newsletter.Concurrency.Mailroom
import Newsletter.History
import Newsletter.Core.Shared
import Newsletter.Concurrency.Previews
import Newsletter.Installation
