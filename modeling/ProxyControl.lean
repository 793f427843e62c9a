import ProxyControl.Logging.Template
import ProxyControl.Main
import ProxyControl.Proofs.Policy.Update
import ProxyControl.Proofs.Policy.Fragment
import ProxyControl.Proofs.Policy.Given
import ProxyControl.Proofs.Policy.Stored
import ProxyControl.Proofs.CommandLine.Run
import ProxyControl.Proofs.Resource
import ProxyControl.Proofs.LogStream
import ProxyControl.Proofs.Terminal
import ProxyControl.Proofs.CommandLine.Exchange
import ProxyControl.Proofs.CommandLine.ErrorLine
import ProxyControl.Proofs.CommandLine.Reports
import ProxyControl.Proofs.CommandLine.Fetching
import ProxyControl.Proofs.CommandLine.Checks
import ProxyControl.Proofs.Connection
import ProxyControl.Proofs.LogRequest
import ProxyControl.Proofs.Config.Loading
import ProxyControl.Proofs.Config.Session
import ProxyControl.Proofs.CommandLine.Startup
import ProxyControl.Proofs.CommandLine.Override
import ProxyControl.Proofs.CommandLine.Secrets
import ProxyControl.Proofs.CommandLine.Since
import ProxyControl.Proofs.CommandLine.Verbosity
import ProxyControl.Proofs.Logging.Reset
import ProxyControl.Proofs.Duration.Whole
import ProxyControl.Proofs.LogSince
import ProxyControl.Proofs.PolicyView
import ProxyControl.Proofs.PolicyShown
import ProxyControl.Proofs.PolicyAgreement
import ProxyControl.Proofs.Context
import ProxyControl.Proofs.Cron.Range
